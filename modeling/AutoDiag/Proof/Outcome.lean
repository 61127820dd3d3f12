import AutoDiag.Protocol.Client

/-!
# What a request comes to

Against a transport that delivers a stream of reply lists, `request()` the first
and every `receive()` the next, an exchange stops in one of three ways: on the
first message that is not pending, on a delivery with no message in it, or when
`max_pending` is used up (`stops_somehow`). `send_of_final`, `send_of_silent` and
`send_of_exhausted` say what `_send` does in each and how many `receive()` calls
it took; `send_outcome` puts them together.
-/

namespace AutoDiag.Proof

open Client

/-- A transport that delivers a stream of reply lists; its state counts the `receive()` calls. -/
def streamed (replies : Nat → List EcuResponse) : Transport Nat where
  request _ _ := fun n => (.ok (replies 0), n)
  receive := fun n => (.ok (replies (n + 1)), n + 1)

/-- `_send` against a stream: what it returns or raises, and the number of `receive()` calls. -/
def sendTo (replies : Nat → List EcuResponse) (f : Family) (maxPending : Nat) (sid : UInt8)
    (data : Bytes) : Except Exn Bytes × Nat :=
  (Client.mk f (streamed replies) maxPending).send sid data true 0

/-- The first `k` deliveries are pending messages. -/
def PendingUpTo (replies : Nat → List EcuResponse) (k : Nat) : Prop :=
  ∀ j < k, ∃ m, firstData (replies j) = some m ∧ isPending m = true

section Streams

variable {replies : Nat → List EcuResponse} {f : Family} {maxPending k : Nat} {sid : UInt8}
  {data : Bytes}

theorem PendingUpTo.mono (h : PendingUpTo replies k) {j : Nat} (hle : j ≤ k) :
    PendingUpTo replies j :=
  fun i hi => h i (by omega)

theorem PendingUpTo.succ {m : Bytes} (h : PendingUpTo replies k)
    (hm : firstData (replies k) = some m) (hpending : isPending m = true) :
    PendingUpTo replies (k + 1) := by
  intro j hj
  rcases Nat.lt_succ_iff_lt_or_eq.mp hj with hj | rfl
  · exact h j hj
  · exact ⟨m, hm, hpending⟩

/-- A run of pending messages and the message after it begin with some message. -/
theorem first_of_run {n : Nat} {m : Bytes}
    (h : ∀ j, n ≤ j → j < n + k → ∃ p, firstData (replies j) = some p ∧ isPending p = true)
    (hm : firstData (replies (n + k)) = some m) : ∃ m₀, firstData (replies n) = some m₀ := by
  rcases Nat.eq_zero_or_pos k with rfl | hk
  · exact ⟨m, hm⟩
  · obtain ⟨m₀, hm₀, _⟩ := h n (Nat.le_refl n) (by omega)
    exact ⟨m₀, hm₀⟩

/-- The loop passes over pending messages, one `receive()` for each. -/
theorem awaitFinal_skip (c : Client Nat) (hc : c.transport = streamed replies) (left : Nat) :
    ∀ (k n : Nat) {m m' : Bytes}, (∀ j, n ≤ j → j < n + k → ∃ p, firstData (replies j) = some p ∧
        isPending p = true) →
      firstData (replies n) = some m → firstData (replies (n + k)) = some m' →
      c.awaitFinal (left + k) m n = c.awaitFinal left m' (n + k) := by
  -- on the number of messages passed over; the message in hand is the first of them
  intro k
  induction k with
  | zero =>
    intro n m m' _ hm hm'
    obtain rfl : m = m' := Option.some.inj (hm.symm.trans hm')
    rfl
  | succ k ih =>
    intro n m m' hpending hm hm'
    obtain ⟨p, hp, hpp⟩ := hpending n (Nat.le_refl n) (by omega)
    obtain rfl : p = m := Option.some.inj (hp.symm.trans hm)
    obtain ⟨m₁, hm₁⟩ := first_of_run (k := k)
      (fun j hj hj' => hpending j (by omega) (by omega))
      (show firstData (replies (n + 1 + k)) = some m' by rwa [Nat.add_right_comm])
    have hreceive : c.transport.receive n = (.ok (replies (n + 1)), n + 1) := by
      rw [hc]
      rfl
    rw [← Nat.add_assoc, awaitFinal_next c (left + k) hpp hreceive hm₁]
    rw [show n + (k + 1) = n + 1 + k by omega] at hm' ⊢
    exact ih (n + 1) (fun j hj hj' => hpending j (by omega) (by omega)) hm₁ hm'

/-- Past `k` pending messages, the loop stands at the next one after `k` calls of `receive()`. -/
theorem awaitFinal_pendingUpTo (c : Client Nat) (hc : c.transport = streamed replies)
    (h : PendingUpTo replies k) {m : Bytes} (hm : firstData (replies k) = some m) (left : Nat) :
    ∃ m₀, firstData (replies 0) = some m₀
      ∧ c.awaitFinal (left + k) m₀ 0 = c.awaitFinal left m k := by
  have hm' : firstData (replies (0 + k)) = some m := by rwa [Nat.zero_add]
  have hpending : ∀ j, 0 ≤ j → j < 0 + k → ∃ p, firstData (replies j) = some p ∧
      isPending p = true := fun j _ hj => h j (by omega)
  obtain ⟨m₀, hm₀⟩ := first_of_run hpending hm'
  have hskip := awaitFinal_skip c hc left k 0 hpending hm₀ hm'
  rw [Nat.zero_add] at hskip
  exact ⟨m₀, hm₀, hskip⟩

/-- **The exchange stops on the first message that is not pending.** -/
theorem sendTo_of_final (hk : k ≤ maxPending) (h : PendingUpTo replies k) {m : Bytes}
    (hm : firstData (replies k) = some m) (hfinal : isPending m = false) :
    sendTo replies f maxPending sid data = (settle f sid m, k) := by
  obtain ⟨left, rfl⟩ := Nat.exists_eq_add_of_le' hk
  obtain ⟨m₀, hm₀, hskip⟩ := awaitFinal_pendingUpTo (Client.mk f (streamed replies) (left + k)) rfl
    h hm left
  exact send_of_final _ rfl hm₀ (hskip.trans (awaitFinal_final _ left hfinal k))

/-- **A delivery without a message is a timeout.** -/
theorem sendTo_of_silent (hk : k ≤ maxPending) (h : PendingUpTo replies k)
    (hm : firstData (replies k) = none) : sendTo replies f maxPending sid data =
      (.error (f.exn (.timeout "no response from ECU")), k) := by
  cases k with
  | zero =>
    have hrequest : (streamed replies).request (sid :: data) false 0 = (.ok (replies 0), 0) := rfl
    refine (Call.bind_run_ok hrequest).trans ?_
    exact Call.bind_run_error (by rw [pick_of_none hm]; rfl)
  | succ k =>
    obtain ⟨left, rfl⟩ := Nat.exists_eq_add_of_le' hk
    obtain ⟨p, hp, hpp⟩ := h k (Nat.lt_succ_self k)
    let c : Client Nat := ⟨f, streamed replies, left + (k + 1)⟩
    obtain ⟨m₀, hm₀, hskip⟩ := awaitFinal_pendingUpTo c rfl (h.mono (Nat.le_succ k)) hp (left + 1)
    have hstop : c.awaitFinal (left + (k + 1)) m₀ 0
        = (.error (f.exn (.timeout "no response from ECU")), k + 1) := by
      have hreceive : c.transport.receive k = (.ok (replies (k + 1)), k + 1) := rfl
      rw [show left + (k + 1) = left + 1 + k by omega, hskip]
      exact awaitFinal_silent c left hpp hreceive hm
    exact send_of_no_final c rfl hm₀ hstop

/-- **One pending message too many is a timeout.** -/
theorem sendTo_of_exhausted (h : PendingUpTo replies (maxPending + 1)) :
    sendTo replies f maxPending sid data =
      (.error (f.exn (.timeout "too many responsePending (0x78) replies")), maxPending) := by
  obtain ⟨p, hp, hpp⟩ := h maxPending (Nat.lt_succ_self maxPending)
  let c : Client Nat := ⟨f, streamed replies, maxPending⟩
  obtain ⟨m₀, hm₀, hskip⟩ := awaitFinal_pendingUpTo c rfl (h.mono (Nat.le_succ maxPending)) hp 0
  rw [Nat.zero_add] at hskip
  exact send_of_no_final c rfl hm₀ (hskip.trans (awaitFinal_exhausted c hpp maxPending))

/-- Where the exchange stops. -/
theorem stops_somehow (replies : Nat → List EcuResponse) (maxPending : Nat) :
    (∃ k m, k ≤ maxPending ∧ PendingUpTo replies k ∧ firstData (replies k) = some m ∧
        isPending m = false) ∨
      (∃ k, k ≤ maxPending ∧ PendingUpTo replies k ∧ firstData (replies k) = none) ∨
      PendingUpTo replies (maxPending + 1) := by
  -- on the messages looked at so far: all pending, or the exchange stops among them
  have hcount : ∀ n, n ≤ maxPending + 1 →
      (∃ k m, k ≤ maxPending ∧ PendingUpTo replies k ∧ firstData (replies k) = some m ∧
          isPending m = false) ∨
        (∃ k, k ≤ maxPending ∧ PendingUpTo replies k ∧ firstData (replies k) = none) ∨
        PendingUpTo replies n := by
    intro n
    induction n with
    | zero => exact fun _ => Or.inr (Or.inr fun j hj => absurd hj (Nat.not_lt_zero j))
    | succ n ih =>
      intro hn
      rcases ih (by omega) with hfinal | hsilent | hpending
      · exact Or.inl hfinal
      · exact Or.inr (Or.inl hsilent)
      · cases hm : firstData (replies n) with
        | none => exact Or.inr (Or.inl ⟨n, by omega, hpending, hm⟩)
        | some m =>
          cases hp : isPending m with
          | false => exact Or.inl ⟨n, m, by omega, hpending, hm, hp⟩
          | true => exact Or.inr (Or.inr (hpending.succ hm hp))
  exact hcount (maxPending + 1) (Nat.le_refl _)

end Streams

/-! ## What the final message settles to -/

theorem settle_positive (f : Family) {sid : UInt8} (hsid : sid + 0x40 ≠ 0x7F) (rest : Bytes) :
    settle f sid ((sid + 0x40) :: rest) = .ok rest :=
  (settle_ok_iff hsid).mpr rfl

theorem settle_refusal (f : Family) (sid : UInt8) (rest : Bytes) :
    settle f sid (0x7F :: rest)
      = .error (negativeResponse f sid ((0x7F :: rest)[2]?.getD 0x10)) := rfl

theorem settle_unexpected (f : Family) {sid : UInt8} {m : Bytes} (hneg : m[0]? ≠ some 0x7F)
    (hpos : m[0]? ≠ some (sid + 0x40)) :
    settle f sid m = .error (unexpectedResponse f sid m[0]?) := by
  rw [settle, check, if_neg hneg, if_pos hpos]

end AutoDiag.Proof

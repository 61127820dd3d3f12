import AutoDiag.Proof.Outcome
import AutoDiag.Proof.Pending

/-!
# Whose negative response it is

A negative response is `7F <sid> <nrc>`. Neither the pending loop nor the check
at the end looks at the second byte, so a client takes the negative response to
another service for its own. `sendTo_named_iff` is how far it goes right: an
exchange attributes nothing wrongly exactly when every message it reads that
begins with `7F` names the service.
-/

namespace AutoDiag.Proof

open Client

/-- The exchange was told to wait by delivery `j`: it went on to the next one, or gave up because it
had waited too often. -/
def WaitedOn (f : Family) (run : Except Exn Bytes × Nat) (j : Nat) : Prop :=
  j < run.2 ∨
    j = run.2 ∧ run.1 = .error (f.exn (.timeout "too many responsePending (0x78) replies"))

/-- Every refusal of `sid` that is raised was sent as `7F sid nrc`, and every message that is waited
on is `7F sid 78`. -/
def Named (f : Family) (sid : UInt8) (replies : Nat → List EcuResponse)
    (run : Except Exn Bytes × Nat) : Prop :=
  (∀ nrc, run.1 = .error (negativeResponse f sid nrc) →
    ∃ rest, firstData (replies run.2) = some (0x7F :: sid :: nrc :: rest)) ∧
  ∀ j m, WaitedOn f run j → firstData (replies j) = some m →
    ∃ rest, m = 0x7F :: sid :: Nrc.responsePending :: rest

/-- The messages an exchange reads are those up to the first that is not pending, `max_pending` and
one at most: each that begins with `7F` is a whole negative response to `sid`. -/
def AllNamed (sid : UInt8) (maxPending : Nat) (replies : Nat → List EcuResponse) : Prop :=
  ∀ k rest, k ≤ maxPending → PendingUpTo replies k →
    firstData (replies k) = some (0x7F :: rest) → ∃ nrc rest', rest = sid :: nrc :: rest'

theorem starts_of_pending {m : Bytes} (h : isPending m = true) : ∃ rest, m = 0x7F :: rest := by
  match m with
  | [] => cases h
  | [_] => cases h
  | [_, _] => cases h
  | a :: b :: c :: rest =>
    have ha : a = 0x7F := by
      simp only [isPending, Bool.and_eq_true, beq_iff_eq] at h
      exact h.1
    exact ⟨b :: c :: rest, by rw [ha]⟩

theorem nrc_of_pending {sid nrc : UInt8} {rest : Bytes}
    (h : isPending (0x7F :: sid :: nrc :: rest) = true) : nrc = Nrc.responsePending := by
  simp only [isPending, Bool.and_eq_true, beq_iff_eq] at h
  exact h.2

theorem negativeResponse_inj {f : Family} {sid nrc nrc' : UInt8}
    (h : negativeResponse f sid nrc = negativeResponse f sid nrc') : nrc = nrc' := by
  have herror := ClientError.negativeResponse.inj (Family.exn_inj.mp h)
  exact UInt8.toNat_inj.mp herror.2.1

/-- A timeout is no refusal. -/
theorem negativeResponse_ne_timeout {f : Family} {sid nrc : UInt8} {text : String} :
    f.exn (.timeout text) ≠ negativeResponse f sid nrc := by
  intro h
  cases Family.exn_inj.mp h

theorem unexpectedResponse_ne_refusal {f : Family} {sid nrc : UInt8} {got : Option UInt8} :
    unexpectedResponse f sid got ≠ negativeResponse f sid nrc := by
  intro h
  cases Family.exn_inj.mp h

/-- Only a message that begins with `7F` settles to a refusal. -/
theorem refusal_of_settle {f : Family} {sid nrc : UInt8} {m : Bytes}
    (h : settle f sid m = .error (negativeResponse f sid nrc)) :
    ∃ rest, m = 0x7F :: rest ∧ m[2]?.getD 0x10 = nrc := by
  cases m with
  | nil =>
    rw [settle_unexpected f (by simp) (by simp)] at h
    exact absurd (Except.error.inj h) unexpectedResponse_ne_refusal
  | cons b rest =>
    by_cases hneg : b = 0x7F
    · subst hneg
      rw [settle_refusal, Except.error.injEq] at h
      exact ⟨rest, rfl, negativeResponse_inj h⟩
    · by_cases hpos : b = sid + 0x40
      · subst hpos
        rw [settle_positive f hneg] at h
        cases h
      · rw [settle_unexpected f (by simpa using hneg) (by simpa using hpos)] at h
        exact absurd (Except.error.inj h) unexpectedResponse_ne_refusal

section Streams

variable {replies : Nat → List EcuResponse} {f : Family} {maxPending : Nat} {sid : UInt8}
  {data : Bytes}

/-- Among named messages, the pending ones are `7F sid 78`. -/
theorem AllNamed.pending (h : AllNamed sid maxPending replies) {k : Nat}
    (hk : k ≤ maxPending + 1) (hpending : PendingUpTo replies k) {j : Nat} (hj : j < k) {m : Bytes}
    (hm : firstData (replies j) = some m) :
    ∃ rest, m = 0x7F :: sid :: Nrc.responsePending :: rest := by
  obtain ⟨p, hp, hpp⟩ := hpending j hj
  obtain rfl : p = m := Option.some.inj (hp.symm.trans hm)
  obtain ⟨rest, rfl⟩ := starts_of_pending hpp
  obtain ⟨nrc, rest', rfl⟩ := h j rest (by omega) (hpending.mono (by omega)) hm
  exact ⟨rest', by rw [nrc_of_pending hpp]⟩

/-- A pending message the exchange comes to is waited on. -/
theorem waitedOn_of_pending {k : Nat} (hk : k ≤ maxPending) {m : Bytes}
    (h : PendingUpTo replies k) (hm : firstData (replies k) = some m)
    (hpending : isPending m = true) :
    WaitedOn f (sendTo replies f maxPending sid data) k := by
  have hsucc := h.succ hm hpending
  rcases stops_somehow replies maxPending with
    ⟨k', m', hk', h', hm', hfinal⟩ | ⟨k', hk', h', hnone⟩ | hall
  · -- the final message comes after every pending one
    rw [sendTo_of_final hk' h' hm' hfinal]
    refine Or.inl (Nat.lt_of_not_le fun hle => ?_)
    obtain ⟨p, hp, hpp⟩ := hsucc k' (by omega)
    rw [Option.some.inj (hm'.symm.trans hp), hpp] at hfinal
    cases hfinal
  · rw [sendTo_of_silent hk' h' hnone]
    refine Or.inl (Nat.lt_of_not_le fun hle => ?_)
    obtain ⟨p, hp, _⟩ := hsucc k' (by omega)
    rw [hnone] at hp
    cases hp
  · rw [sendTo_of_exhausted hall]
    rcases Nat.lt_or_eq_of_le hk with hlt | rfl
    · exact Or.inl hlt
    · exact Or.inr ⟨rfl, rfl⟩

theorem named_of_allNamed (h : AllNamed sid maxPending replies) :
    Named f sid replies (sendTo replies f maxPending sid data) := by
  rcases stops_somehow replies maxPending with
    ⟨k, m, hk, hpending, hm, hfinal⟩ | ⟨k, hk, hpending, hnone⟩ | hall
  · rw [sendTo_of_final hk hpending hm hfinal]
    constructor
    · intro nrc hrefused
      obtain ⟨rest, rfl, hnrc⟩ := refusal_of_settle hrefused
      obtain ⟨nrc', rest', rfl⟩ := h k rest hk hpending hm
      obtain rfl : nrc' = nrc := hnrc
      exact ⟨rest', hm⟩
    · rintro j m' (hj | ⟨_, htimeout⟩) hm'
      · exact h.pending (by omega) hpending hj hm'
      · exact absurd htimeout (settle_ne_timeout f sid m _)
  · -- a timeout is no refusal, and not the one that ends too many pending messages
    rw [sendTo_of_silent hk hpending hnone]
    constructor
    · intro nrc hrefused
      exact absurd (Except.error.inj hrefused) negativeResponse_ne_timeout
    · rintro j m' (hj | ⟨_, htimeout⟩) hm'
      · exact h.pending (by omega) hpending hj hm'
      · have htext := ClientError.timeout.inj (Family.exn_inj.mp (Except.error.inj htimeout))
        exact absurd htext (by decide)
  · -- too many pending messages: the last of them counts, too
    rw [sendTo_of_exhausted hall]
    constructor
    · intro nrc hrefused
      exact absurd (Except.error.inj hrefused) negativeResponse_ne_timeout
    · rintro j m' hj hm'
      have hle : j < maxPending + 1 := by
        rcases hj with hj | ⟨hj, _⟩
        · exact Nat.lt_succ_of_lt hj
        · exact Nat.lt_succ_of_le (Nat.le_of_eq hj)
      exact h.pending (Nat.le_refl _) hall hle hm'

theorem allNamed_of_named (h : Named f sid replies (sendTo replies f maxPending sid data)) :
    AllNamed sid maxPending replies := by
  intro k rest hk hpending hm
  cases hp : isPending (0x7F :: rest) with
  | true =>
    obtain ⟨rest', heq⟩ := h.2 k _ (waitedOn_of_pending hk hpending hm hp) hm
    exact ⟨_, rest', (List.cons.inj heq).2⟩
  | false =>
    rw [sendTo_of_final hk hpending hm hp] at h
    obtain ⟨rest', heq⟩ := h.1 _ (settle_refusal f sid rest)
    rw [hm, Option.some.injEq] at heq
    exact ⟨_, rest', (List.cons.inj heq).2⟩

end Streams

/-- **Negative responses are attributed rightly exactly in the exchanges whose `7F` messages all name
the service.** -/
theorem sendTo_named_iff (f : Family) (sid : UInt8) (data : Bytes) (maxPending : Nat)
    (replies : Nat → List EcuResponse) :
    Named f sid replies (sendTo replies f maxPending sid data)
      ↔ AllNamed sid maxPending replies :=
  ⟨allNamed_of_named, named_of_allNamed⟩

/-- A late refusal of a write, read as the answer to a read. -/
def lateRefusal : Nat → List EcuResponse := fun _ => [⟨0x7E8, [0x7F, 0x2E, 0x31]⟩]

theorem lateRefusal_misnamed :
    ¬ Named .uds 0x22 lateRefusal (sendTo lateRefusal .uds 10 0x22 [0xF1, 0x90]) := by
  intro h
  obtain ⟨rest, hrest⟩ := h.1 0x31 rfl
  exact absurd hrest (by simp [lateRefusal, firstData])

end AutoDiag.Proof

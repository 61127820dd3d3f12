import AutoDiag.Proof.Exchange
import AutoDiag.Protocol.J1979
import AutoDiag.Simulator.EcuSim

/-!
# Which PIDs the walk over the bitmaps finds

`read_supported_pids` asks for one range after another and stops after the first
bitmap whose lowest bit is clear, so what it finds depends on the first bitmap of
each range only (`supportedFrom_replies`, `mem_walk`). One ECU is read exactly. Of
several ECUs only the one that answers a range first is heard.
-/

namespace AutoDiag.Proof

open Obd2 Raise

variable {σ : Type}

/-! ## The walk -/

/-- The bases of the eight ranges. -/
def ranges : List Nat := (List.range' 0 8).map (32 * ·)

/-- `01 base` is asked for one base after another and answered with `rs base`. -/
def Replies (t : Transport σ) (rs : Nat → List EcuResponse) : List Nat → σ → Prop
  | [], _ => True
  | base :: bases, s =>
    ∃ s', t.request [0x01, UInt8.ofNat base] true s = (.ok (rs base), s') ∧ Replies t rs bases s'

/-- The first bitmap among the replies to `01 base`, as a number; `0` where there is none. -/
def bitmapIn (rs : Nat → List EcuResponse) (base : Nat) : Nat :=
  ((firstBitmap (positive (rs base) 0x01 (some (UInt8.ofNat base)))).map Py.ofBytesBig).getD 0

/-- The PIDs of the bitmaps, up to the first one whose lowest bit is clear. -/
def walk (bits : Nat → Nat) : List Nat → List Nat
  | [] => []
  | base :: bases =>
    pidsOf base (bits base) ++ if (bits base).testBit 0 then walk bits bases else []

theorem bytesOf_base {base : Nat} (h : base < 256) :
    Py.bytesOf [0x01, (base : Int)] = .ok [0x01, UInt8.ofNat base] := by
  rw [Py.bytesOf_of_range, List.map_cons, List.map_singleton, Py.lowByte_natCast]
  · rfl
  · intro x hx
    rcases List.mem_cons.mp hx with rfl | hx
    · omega
    · rw [List.mem_singleton.mp hx]
      omega

theorem pidsOf_zero (base : Nat) : pidsOf base 0 = [] := by
  simp [pidsOf]

/-- **The walk depends on the first bitmaps only.** -/
theorem supportedFrom_replies {t : Transport σ} {rs : Nat → List EcuResponse} {bases : List Nat}
    (hlt : ∀ base ∈ bases, base < 256) {s : σ} (h : Replies t rs bases s) :
    (supportedFrom t bases s).1 = .ok (walk (bitmapIn rs) bases) := by
  induction bases generalizing s with
  | nil => rfl
  | cons base bases ih =>
    obtain ⟨s', hreq, hrest⟩ := h
    have hbuilt : (Call.ofExcept (Py.bytesOf [0x01, (base : Int)]) : Call Exn σ Bytes) s
        = (.ok [0x01, UInt8.ofNat base], s) :=
      congrArg (·, s) (bytesOf_base (hlt base (List.mem_cons_self ..)))
    have ih := ih (fun b hb => hlt b (List.mem_cons_of_mem _ hb)) hrest
    rw [Call.run_of_eq_bind (y := supportedFrom t (base :: bases)) rfl hbuilt,
      Call.bind_run_ok hreq, walk, bitmapIn]
    cases firstBitmap (positive (rs base) 0x01 (some (UInt8.ofNat base))) with
    | none =>
      -- no reply counts as a bitmap without a bit
      rw [Option.map_none, Option.getD_none, pidsOf_zero]
      rfl
    | some bitmap =>
      rw [Option.map_some, Option.getD_some]
      dsimp only
      cases hbit : (Py.ofBytesBig bitmap).testBit 0 with
      | false => rw [if_neg Bool.false_ne_true, if_neg Bool.false_ne_true, List.append_nil]; rfl
      | true =>
        rw [if_pos rfl, if_pos rfl]
        cases hmore : supportedFrom t bases s' with
        | mk r s₂ =>
          rw [hmore] at ih
          rw [Call.bind_run_ok (hmore.trans (congrArg (·, s₂) ih))]
          rfl

theorem readSupportedPids_replies {t : Transport σ} {rs : Nat → List EcuResponse} {s : σ}
    (h : Replies t rs ranges s) :
    (readSupportedPids t s).1 = .ok (walk (bitmapIn rs) ranges) :=
  supportedFrom_replies (by decide) h

/-! ## What it finds -/

theorem mem_pidsOf {base bits p : Nat} :
    p ∈ pidsOf base bits ↔ base < p ∧ p ≤ base + 32 ∧ bits.testBit (base + 32 - p) := by
  rw [pidsOf, List.mem_map]
  constructor
  · rintro ⟨i, hi, rfl⟩
    obtain ⟨hi, hbit⟩ := List.mem_filter.mp hi
    have hi : i < 32 := List.mem_range.mp hi
    refine ⟨by omega, by omega, ?_⟩
    rwa [show base + 32 - (base + i + 1) = 31 - i from by omega]
  · rintro ⟨hlow, hhigh, hbit⟩
    refine ⟨p - base - 1, List.mem_filter.mpr ⟨List.mem_range.mpr (by omega), ?_⟩, by omega⟩
    rwa [show 31 - (p - base - 1) = base + 32 - p from by omega]

/-- **A PID is found if its bit is set and the ranges before it say that they go on.** -/
theorem mem_walk {bits : Nat → Nat} {k n p : Nat} :
    p ∈ walk bits ((List.range' k n).map (32 * ·)) ↔ ∃ j, k ≤ j ∧ j < k + n
      ∧ (∀ i, k ≤ i → i < j → (bits (32 * i)).testBit 0) ∧ p ∈ pidsOf (32 * j) (bits (32 * j)) := by
  induction n generalizing k with
  | zero =>
    refine iff_of_false List.not_mem_nil ?_
    rintro ⟨j, hle, hlt, -⟩
    omega
  | succ n ih =>
    rw [List.range'_succ, List.map_cons, walk, List.mem_append]
    constructor
    · rintro (hp | hp)
      · exact ⟨k, Nat.le_refl k, by omega, fun i h1 h2 => by omega, hp⟩
      · split at hp
        · rename_i hbit
          obtain ⟨j, hle, hlt, hbits, hp⟩ := ih.mp hp
          refine ⟨j, by omega, by omega, fun i h1 h2 => ?_, hp⟩
          by_cases hi : i = k
          · rwa [hi]
          · exact hbits i (by omega) h2
        · exact absurd hp List.not_mem_nil
    · rintro ⟨j, hle, hlt, hbits, hp⟩
      by_cases hj : j = k
      · exact .inl (hj ▸ hp)
      · -- the range lies behind the first one, which says that it goes on
        right
        rw [if_pos (hbits k (Nat.le_refl k) (by omega))]
        exact ih.mpr ⟨j, by omega, by omega, fun i h1 h2 => hbits i (by omega) h2, hp⟩

/-! ## One ECU -/

/-- An ECU with the PIDs it supports. -/
structure PidEcu where
  source : Nat
  supported : List Nat
  inRange : ∀ p ∈ supported, 1 ≤ p ∧ p ≤ 255

namespace PidEcu

/-- The answer to `01 base`. -/
def reply (e : PidEcu) (base : Nat) : EcuResponse :=
  ⟨e.source, 0x41 :: UInt8.ofNat base :: SimulatedEcu.supportedBitmap base e.supported⟩

/-- The bits of the answer, as a number. -/
def bits (e : PidEcu) (base : Nat) : Nat :=
  Py.ofBytesBig (SimulatedEcu.supportedBitmap base e.supported)

end PidEcu

theorem testBit_setBits (S : List Nat) (base k : Nat) (is : List Nat) (b : Nat) :
    (is.foldl (fun bits i => if base + i + 1 ∈ S then bits ||| 1 <<< (31 - i) else bits)
        b).testBit k
      ↔ b.testBit k ∨ ∃ i ∈ is, base + i + 1 ∈ S ∧ 31 - i = k := by
  induction is generalizing b with
  | nil => simp
  | cons i is ih =>
    rw [List.foldl_cons, ih]
    by_cases hi : base + i + 1 ∈ S
    · simp [hi, Nat.one_shiftLeft, Nat.testBit_two_pow, or_assoc]
    · simp [hi]

/-- **Bit `k` of the bitmap stands for the PID `k` places before the end of the range.** -/
theorem PidEcu.testBit_bits (e : PidEcu) {base k : Nat} :
    (e.bits base).testBit k ↔ k < 32 ∧ base + 32 - k ∈ e.supported := by
  have hset := fun k => testBit_setBits e.supported base k (List.range 32) 0
  have hbits : ∀ k, (e.bits base).testBit k
      ↔ ∃ i ∈ List.range 32, base + i + 1 ∈ e.supported ∧ 31 - i = k := by
    intro k
    rw [PidEcu.bits, SimulatedEcu.supportedBitmap, Py.ofBytesBig_toBytesBig, hset]
    · simp
    · -- no bit is set above the lowest 32
      refine Nat.lt_pow_two_of_testBit (n := 32) _ fun k hk => ?_
      rw [Bool.eq_false_iff, Ne, hset]
      simp
      omega
  rw [hbits]
  constructor
  · rintro ⟨i, hi, hmem, rfl⟩
    have hi : i < 32 := List.mem_range.mp hi
    refine ⟨by omega, ?_⟩
    rwa [show base + 32 - (31 - i) = base + i + 1 from by omega]
  · rintro ⟨hk, hmem⟩
    refine ⟨31 - k, List.mem_range.mpr (by omega), ?_, by omega⟩
    rwa [show base + (31 - k) + 1 = base + 32 - k from by omega]

/-- The number read from the first of the ECUs, none of whose replies is passed over. -/
def headBits (first : Nat → Option PidEcu) (base : Nat) : Nat :=
  ((first base).map fun e => e.bits base).getD 0

theorem testBit_headBits {first : Nat → Option PidEcu} {base k : Nat} :
    (headBits first base).testBit k
      ↔ ∃ e ∈ first base, k < 32 ∧ base + 32 - k ∈ e.supported := by
  rw [headBits]
  cases hfirst : first base with
  | none => simp
  | some e => simp [PidEcu.testBit_bits]

/-- The first reply is the one that is read, since every reply is long enough. -/
theorem bitmapIn_replies (order : Nat → List PidEcu) (base : Nat) :
    bitmapIn (fun base => (order base).map (·.reply base)) base
      = headBits (fun base => (order base).head?) base := by
  rw [bitmapIn, headBits]
  cases order base with
  | nil => rfl
  | cons e es =>
    have hlen : (SimulatedEcu.supportedBitmap base e.supported).length = 4 :=
      Py.length_toBytesBig ..
    have hpos : positive ((e :: es).map (·.reply base)) 0x01 (some (UInt8.ofNat base))
        = (e.reply base).data
          :: positive (es.map (·.reply base)) 0x01 (some (UInt8.ofNat base)) := by
      simp [positive, PidEcu.reply]
    rw [hpos, firstBitmap, List.find?_cons_of_pos (by simp [PidEcu.reply, hlen])]
    -- the bitmap is the four bytes behind the echo
    have hslice : Py.slice (e.reply base).data 2 6
        = SimulatedEcu.supportedBitmap base e.supported := by
      rw [PidEcu.reply, Py.slice, List.take_succ_cons, List.take_succ_cons, List.drop_succ_cons,
        List.drop_succ_cons, List.drop_zero, List.take_of_length_le (Nat.le_of_eq hlen)]
    rw [Option.map_some, hslice]
    rfl

/-- What the walk finds if only the first ECU of each range is heard. -/
theorem mem_walk_first {first : Nat → Option PidEcu} {p : Nat} :
    p ∈ walk (headBits first) ranges ↔ ∃ j < 8,
      (∀ i < j, ∃ e ∈ first (32 * i), 32 * (i + 1) ∈ e.supported)
      ∧ 32 * j < p ∧ p ≤ 32 * j + 32 ∧ ∃ e ∈ first (32 * j), p ∈ e.supported := by
  rw [ranges, mem_walk]
  constructor
  · rintro ⟨j, -, hj, hon, hp⟩
    obtain ⟨hlow, hhigh, hbit⟩ := mem_pidsOf.mp hp
    obtain ⟨e, he, -, hmem⟩ := testBit_headBits.mp hbit
    refine ⟨j, by omega, fun i hi => ?_, hlow, hhigh, e, he, ?_⟩
    · obtain ⟨e, he, -, hmem⟩ := testBit_headBits.mp (hon i (Nat.zero_le i) hi)
      exact ⟨e, he, hmem⟩
    · rwa [show 32 * j + 32 - (32 * j + 32 - p) = p from by omega] at hmem
  · rintro ⟨j, hj, hon, hlow, hhigh, e, he, hmem⟩
    refine ⟨j, Nat.zero_le j, by omega, fun i _ hi => ?_, ?_⟩
    · obtain ⟨e, he, hmem⟩ := hon i hi
      exact testBit_headBits.mpr ⟨e, he, by omega, hmem⟩
    · refine mem_pidsOf.mpr ⟨hlow, hhigh, testBit_headBits.mpr ⟨e, he, by omega, ?_⟩⟩
      rwa [show 32 * j + 32 - (32 * j + 32 - p) = p from by omega]

/-- **One ECU's PIDs are found as far as its own chain of ranges goes.** -/
theorem mem_walk_one {e : PidEcu} {first : Nat → Option PidEcu}
    (hself : ∀ base, ∀ e' ∈ first base, e' = e)
    (hanswers : ∀ base, base = 0 ∨ base ∈ e.supported → first base = some e) {p : Nat} :
    p ∈ walk (headBits first) ranges
      ↔ p ∈ e.supported ∧ ∀ m, 0 < 32 * m → 32 * m < p → 32 * m ∈ e.supported := by
  rw [mem_walk_first]
  constructor
  · rintro ⟨j, hj, hon, hlow, hhigh, e', he', hmem⟩
    refine ⟨hself _ e' he' ▸ hmem, fun m hpos hlt => ?_⟩
    obtain ⟨e', he', hmem⟩ := hon (m - 1) (by omega)
    rwa [hself _ e' he', show m - 1 + 1 = m from by omega] at hmem
  · rintro ⟨hmem, hchain⟩
    obtain ⟨hlow, hhigh⟩ := e.inRange p hmem
    have hfirst : ∀ i, 32 * i < p → first (32 * i) = some e := by
      intro i hi
      by_cases hzero : 32 * i = 0
      · exact hanswers _ (.inl hzero)
      · exact hanswers _ (.inr (hchain i (by omega) hi))
    refine ⟨(p - 1) / 32, by omega, fun i hi => ⟨e, hfirst i (by omega), ?_⟩, by omega, by omega,
      e, hfirst _ (by omega), hmem⟩
    exact hchain (i + 1) (by omega) (by omega)

/-! ## How often it asks -/

/-- The requests in a log. -/
def requests (log : List Exchange) : Nat := log.countP fun x => x.delivered?.isNone

/-- However the call ends, it has sent at most `n` requests. -/
def AsksAtMost {α : Type} (n : Nat) (x : Call Exn (σ × List Exchange) α) : Prop :=
  ∀ s log, requests (x (s, log)).2.2 ≤ requests log + n

section AsksAtMost

variable {α β : Type} {n m : Nat}

theorem asks_pure (a : α) : AsksAtMost n (pure a : Call Exn (σ × List Exchange) α) :=
  fun _ _ => Nat.le_add_right _ _

theorem asks_ofExcept (x : Except Exn α) :
    AsksAtMost n (Call.ofExcept x : Call Exn (σ × List Exchange) α) :=
  fun _ _ => Nat.le_add_right _ _

theorem asks_request (t : Transport σ) (payload : Bytes) (functional : Bool) :
    AsksAtMost 1 (t.logged.request payload functional) := by
  intro s log
  show requests (log ++ .sent payload :: delivery _) ≤ _
  rw [requests, requests, List.countP_append, List.countP_cons_of_pos rfl]
  have hdelivery : ∀ r, (delivery r).countP (fun x => x.delivered?.isNone) = 0 := by
    intro r
    cases r <;> rfl
  rw [hdelivery]

theorem asks_bind {x : Call Exn (σ × List Exchange) α} {f : α → Call Exn (σ × List Exchange) β}
    (hx : AsksAtMost n x) (hf : ∀ a, AsksAtMost m (f a)) : AsksAtMost (n + m) (x >>= f) := by
  intro s log
  have hx := hx s log
  cases hr : x (s, log) with
  | mk r s' =>
    rw [hr] at hx
    have hx : requests s'.2 ≤ requests log + n := hx
    cases r with
    | ok a =>
      rw [Call.bind_run_ok hr]
      exact Nat.le_trans (hf a s'.1 s'.2) (by omega)
    | error e =>
      rw [Call.bind_run_error hr]
      exact Nat.le_trans hx (by omega)

end AsksAtMost

/-- One request for each range. -/
theorem supportedFrom_asks (t : Transport σ) (bases : List Nat) :
    AsksAtMost bases.length (supportedFrom t.logged bases) := by
  induction bases with
  | nil => exact asks_pure _
  | cons base bases ih =>
    rw [List.length_cons, show bases.length + 1 = 0 + (1 + bases.length) from by omega]
    refine asks_bind (asks_ofExcept _) fun req => asks_bind (asks_request t req true) fun rs => ?_
    split
    · exact asks_pure _
    · dsimp only
      split
      · exact asks_bind (m := 0) ih fun more => asks_pure _
      · exact asks_pure _

/-! ## Buses -/

/-- A bus on which `01 base` is answered with `rs base`, and nothing else is. -/
def bus (rs : Nat → List EcuResponse) : Transport Unit where
  request payload _ := fun s =>
    (.ok (match payload with | [0x01, base] => rs base.toNat | _ => []), s)
  receive := fun s => (.ok [], s)

theorem bus_replies (rs : Nat → List EcuResponse) {bases : List Nat}
    (h : ∀ base ∈ bases, base < 256) : Replies (bus rs) rs bases () := by
  induction bases with
  | nil => trivial
  | cons base bases ih =>
    have hbase : (UInt8.ofNat base).toNat = base := by
      rw [UInt8.toNat_ofNat', Nat.mod_eq_of_lt (h base (List.mem_cons_self ..))]
    refine ⟨(), ?_, ih fun b hb => h b (List.mem_cons_of_mem _ hb)⟩
    show (Except.ok (rs (UInt8.ofNat base).toNat), ()) = _
    rw [hbase]

/--
**One ECU.** The walk finds the PIDs the ECU supports, up to the first range that
it does not say goes on, and asks at most eight times.
-/
theorem readSupportedPids_exact {t : Transport σ} {s : σ} (e : PidEcu)
    (h : Replies t (fun base => [e.reply base]) ranges s) :
    ∃ l, (readSupportedPids t s).1 = .ok l
      ∧ (∀ p, p ∈ l
        ↔ p ∈ e.supported ∧ ∀ m, 0 < 32 * m → 32 * m < p → 32 * m ∈ e.supported)
      ∧ requests (readSupportedPids t.logged (s, [])).2.2 ≤ 8 := by
  refine ⟨_, readSupportedPids_replies h, fun p => ?_, ?_⟩
  · rw [show bitmapIn (fun base => [e.reply base]) = headBits fun _ => some e from
      funext fun base => bitmapIn_replies (fun _ => [e]) base]
    refine mem_walk_one ?_ fun _ _ => rfl
    intro base e' he'
    exact (Option.some.inj he').symm
  · have hasks := supportedFrom_asks t ranges s []
    rwa [show requests [] + ranges.length = 8 from rfl] at hasks

/-- The first two ranges and a PID that the walk does not come to. -/
theorem readSupportedPids_exact_instance :
    ∃ l, (readSupportedPids (bus fun base =>
        [PidEcu.reply ⟨0x7E8, [0x0C, 0x20, 0x21, 0x60], by decide⟩ base]) ()).1 = .ok l
      ∧ (∀ p, p ∈ l ↔ p ∈ [0x0C, 0x20, 0x21, 0x60]
        ∧ ∀ m, 0 < 32 * m → 32 * m < p → 32 * m ∈ [0x0C, 0x20, 0x21, 0x60])
      ∧ requests (readSupportedPids (Transport.logged (bus fun base =>
        [PidEcu.reply ⟨0x7E8, [0x0C, 0x20, 0x21, 0x60], by decide⟩ base])) ((), [])).2.2 ≤ 8 :=
  readSupportedPids_exact ⟨0x7E8, [0x0C, 0x20, 0x21, 0x60], by decide⟩
    (bus_replies _ (by decide))

/-! ## Several ECUs -/

namespace PidEcu

/-- The ECU answers `01 base`. -/
def answers (e : PidEcu) (base : Nat) : Bool := base = 0 ∨ base ∈ e.supported

/-- The ranges before the range `k` all say that they go on. -/
def Reaches (e : PidEcu) (k : Nat) : Prop := ∀ i < k, 32 * (i + 1) ∈ e.supported

/-- A bus with this ECU alone. -/
def alone (e : PidEcu) : Transport Unit :=
  bus fun base => ((if e.answers base then [e] else []).map (·.reply base))

theorem Reaches.answers {e : PidEcu} {k : Nat} (h : e.Reaches k) : e.answers (32 * k) := by
  cases k with
  | zero => simp [PidEcu.answers]
  | succ k => simp [PidEcu.answers, h k (Nat.lt_succ_self k)]

/-- A PID the walk would find if the ECU were alone. -/
def Alone (e : PidEcu) (p : Nat) : Prop :=
  ∃ l, (readSupportedPids e.alone ()).1 = .ok l ∧ p ∈ l

theorem alone_iff {e : PidEcu} {p : Nat} : e.Alone p ↔ ∃ k < 8,
    e.Reaches k ∧ 32 * k < p ∧ p ≤ 32 * k + 32 ∧ p ∈ e.supported := by
  have hrun : (readSupportedPids e.alone ()).1 = .ok (walk (headBits fun base =>
      (if e.answers base then [e] else []).head?) ranges) := by
    refine (readSupportedPids_replies (bus_replies _ (by decide))).trans ?_
    exact congrArg (fun bits => Except.ok (walk bits ranges)) (funext fun base =>
      bitmapIn_replies (fun base => if e.answers base then [e] else []) base)
  have hfirst : ∀ base e', (if e.answers base then [e] else []).head? = some e' → e' = e := by
    intro base e' he'
    split at he'
    · exact (Option.some.inj he').symm
    · cases he'
  have hmem := fun p => mem_walk_one (p := p) hfirst
    (fun base hbase => by simp [answers, hbase])
  rw [Alone, hrun]
  constructor
  · rintro ⟨l, hl, hp⟩
    cases hl
    obtain ⟨hp, hchain⟩ := (hmem p).mp hp
    obtain ⟨hlow, hhigh⟩ := e.inRange p hp
    exact ⟨(p - 1) / 32, by omega, fun i hi => hchain (i + 1) (by omega) (by omega), by omega,
      by omega, hp⟩
  · rintro ⟨k, hk, hreaches, hlow, hhigh, hp⟩
    refine ⟨_, rfl, (hmem p).mpr ⟨hp, fun m hpos hlt => ?_⟩⟩
    have hm := hreaches (m - 1) (by omega)
    rwa [show m - 1 + 1 = m from by omega] at hm

end PidEcu

/-- In every range that some ECU comes to by itself, the ECU whose reply is the
first advertises exactly what the ECUs that come to the range advertise. -/
def FirstSpeaksForAll (es : List PidEcu) (order : Nat → List PidEcu) : Prop :=
  ∀ k < 8, (∃ e ∈ es, e.Reaches k) → ∃ f ∈ (order (32 * k)).head?,
    ∀ p, 32 * k < p → p ≤ 32 * k + 32 →
      (p ∈ f.supported ↔ ∃ e ∈ es, e.Reaches k ∧ p ∈ e.supported)

/-- The walk over the first replies comes to the range `k`. -/
def Comes (order : Nat → List PidEcu) (k : Nat) : Prop :=
  ∀ i < k, ∃ f ∈ (order (32 * i)).head?, 32 * (i + 1) ∈ f.supported

theorem Comes.succ {order : Nat → List PidEcu} {k : Nat} (h : Comes order k) {f : PidEcu}
    (hf : f ∈ (order (32 * k)).head?) (hmem : 32 * (k + 1) ∈ f.supported) :
    Comes order (k + 1) := by
  intro i hi
  by_cases hik : i = k
  · exact hik ▸ ⟨f, hf, hmem⟩
  · exact h i (by omega)

theorem PidEcu.Reaches.succ {e : PidEcu} {k : Nat} (h : e.Reaches k)
    (hmem : 32 * (k + 1) ∈ e.supported) : e.Reaches (k + 1) := by
  intro i hi
  by_cases hik : i = k
  · exact hik ▸ hmem
  · exact h i (by omega)

section Union

variable {es : List PidEcu} {order : Nat → List PidEcu}

/-- What the walk finds, range by range. -/
def Found (order : Nat → List PidEcu) (p : Nat) : Prop :=
  ∃ k < 8, Comes order k ∧ 32 * k < p ∧ p ≤ 32 * k + 32
    ∧ ∃ f ∈ (order (32 * k)).head?, p ∈ f.supported

theorem comes_of_speaks (h : FirstSpeaksForAll es order) {k : Nat} (hk : k < 8)
    (hreaches : ∃ e ∈ es, e.Reaches k) : Comes order k := by
  induction k with
  | zero => exact fun i hi => absurd hi (Nat.not_lt_zero i)
  | succ k ih =>
    obtain ⟨e, he, hreach⟩ := hreaches
    have hbefore : e.Reaches k := fun i hi => hreach i (by omega)
    obtain ⟨f, hf, hspeaks⟩ := h k (by omega) ⟨e, he, hbefore⟩
    have hmem := (hspeaks (32 * (k + 1)) (by omega) (by omega)).mpr
      ⟨e, he, hbefore, hreach k (Nat.lt_succ_self k)⟩
    exact (ih (by omega) ⟨e, he, hbefore⟩).succ hf hmem

theorem reaches_of_speaks (h : FirstSpeaksForAll es order) (hne : ∃ e, e ∈ es) {k : Nat}
    (hk : k < 8) (hcomes : Comes order k) : ∃ e ∈ es, e.Reaches k := by
  induction k with
  | zero =>
    obtain ⟨e, he⟩ := hne
    exact ⟨e, he, fun i hi => absurd hi (Nat.not_lt_zero i)⟩
  | succ k ih =>
    have hreaches := ih (by omega) fun i hi => hcomes i (by omega)
    obtain ⟨f, hf, hspeaks⟩ := h k (by omega) hreaches
    obtain ⟨f', hf', hmem⟩ := hcomes k (Nat.lt_succ_self k)
    cases Option.mem_unique hf hf'
    obtain ⟨e, he, hreach, hmem⟩ := (hspeaks (32 * (k + 1)) (by omega) (by omega)).mp hmem
    exact ⟨e, he, hreach.succ hmem⟩

theorem found_iff_of_speaks (hsub : ∀ base, order base ⊆ es) (h : FirstSpeaksForAll es order)
    (p : Nat) : Found order p ↔ ∃ e ∈ es, e.Alone p := by
  constructor
  · rintro ⟨k, hk, hcomes, hlow, hhigh, f, hf, hmem⟩
    have hne : ∃ e, e ∈ es := ⟨f, hsub _ (List.mem_of_head? hf)⟩
    obtain ⟨f', hf', hspeaks⟩ := h k hk (reaches_of_speaks h hne hk hcomes)
    cases Option.mem_unique hf hf'
    obtain ⟨e, he, hreach, hmem⟩ := (hspeaks p hlow hhigh).mp hmem
    exact ⟨e, he, PidEcu.alone_iff.mpr ⟨k, hk, hreach, hlow, hhigh, hmem⟩⟩
  · rintro ⟨e, he, halone⟩
    obtain ⟨k, hk, hreach, hlow, hhigh, hmem⟩ := PidEcu.alone_iff.mp halone
    obtain ⟨f, hf, hspeaks⟩ := h k hk ⟨e, he, hreach⟩
    exact ⟨k, hk, comes_of_speaks h hk ⟨e, he, hreach⟩, hlow, hhigh, f, hf,
      (hspeaks p hlow hhigh).mpr ⟨e, he, hreach, hmem⟩⟩

/-- What is found in a range is what its first ECU advertises. -/
theorem Found.inRange {p k : Nat} (h : Found order p) (hlow : 32 * k < p)
    (hhigh : p ≤ 32 * k + 32) :
    Comes order k ∧ ∃ f ∈ (order (32 * k)).head?, p ∈ f.supported := by
  obtain ⟨j, _, hcomes, hjlow, hjhigh, hf⟩ := h
  cases show j = k by omega
  exact ⟨hcomes, hf⟩

theorem PidEcu.Alone.inRange {e : PidEcu} {p k : Nat} (h : e.Alone p) (hlow : 32 * k < p)
    (hhigh : p ≤ 32 * k + 32) : e.Reaches k ∧ p ∈ e.supported := by
  obtain ⟨j, _, hreach, hjlow, hjhigh, hmem⟩ := PidEcu.alone_iff.mp h
  cases show j = k by omega
  exact ⟨hreach, hmem⟩

theorem speaks_of_found_iff (hall : ∀ base, ∀ e ∈ es, e.answers base → e ∈ order base)
    (h : ∀ p, Found order p ↔ ∃ e ∈ es, e.Alone p) : FirstSpeaksForAll es order := by
  have hcomes : ∀ {k}, k < 8 → (∃ e ∈ es, e.Reaches k) → Comes order k := by
    intro k hk hreaches
    induction k with
    | zero => exact fun i hi => absurd hi (Nat.not_lt_zero i)
    | succ k ih =>
      -- the PID that says that the range before goes on is found, and found there
      obtain ⟨e, he, hreach⟩ := hreaches
      have hbefore : e.Reaches k := fun i hi => hreach i (by omega)
      have hfound := (h (32 * (k + 1))).mpr ⟨e, he, PidEcu.alone_iff.mpr
        ⟨k, by omega, hbefore, by omega, by omega, hreach k (Nat.lt_succ_self k)⟩⟩
      obtain ⟨hcomes, f, hf, hmem⟩ := hfound.inRange (k := k) (by omega) (by omega)
      exact hcomes.succ hf hmem
  rintro k hk ⟨e, he, hreach⟩
  obtain ⟨f, fs, hfs⟩ := List.exists_cons_of_ne_nil
    (List.ne_nil_of_mem (hall (32 * k) e he hreach.answers))
  have hf : f ∈ (order (32 * k)).head? := by rw [hfs]; rfl
  refine ⟨f, hf, fun p hlow hhigh => ⟨fun hmem => ?_, ?_⟩⟩
  · obtain ⟨e, he, halone⟩ :=
      (h p).mp ⟨k, hk, hcomes hk ⟨e, he, hreach⟩, hlow, hhigh, f, hf, hmem⟩
    exact ⟨e, he, halone.inRange hlow hhigh⟩
  · rintro ⟨e, he, hreach, hmem⟩
    have hfound := (h p).mpr ⟨e, he, PidEcu.alone_iff.mpr ⟨k, hk, hreach, hlow, hhigh, hmem⟩⟩
    obtain ⟨-, f', hf', hmem⟩ := hfound.inRange hlow hhigh
    cases Option.mem_unique hf hf'
    exact hmem

/--
**Several ECUs.** What is found on the bus is what would be found of each ECU alone
exactly if in every range the first reply stands for all of them: the bitmaps of the
other ECUs are never looked at.
-/
theorem readSupportedPids_union {t : Transport σ} {s : σ}
    (horder : ∀ base, (order base).Perm (es.filter (·.answers base)))
    (h : Replies t (fun base => (order base).map (·.reply base)) ranges s) :
    ∃ l, (readSupportedPids t s).1 = .ok l
      ∧ ((∀ p, p ∈ l ↔ ∃ e ∈ es, e.Alone p) ↔ FirstSpeaksForAll es order) := by
  have hmem : ∀ p, p ∈ walk (bitmapIn fun base => (order base).map (·.reply base)) ranges
      ↔ Found order p := by
    intro p
    rw [show (bitmapIn fun base => (order base).map (·.reply base))
      = headBits fun base => (order base).head? from funext (bitmapIn_replies order)]
    exact mem_walk_first
  refine ⟨_, readSupportedPids_replies h, ?_⟩
  simp only [hmem]
  constructor
  · refine speaks_of_found_iff fun base e he hanswers => ?_
    exact (horder base).mem_iff.mpr (List.mem_filter.mpr ⟨he, hanswers⟩)
  · refine found_iff_of_speaks fun base e he => ?_
    exact List.mem_of_mem_filter ((horder base).mem_iff.mp he)

end Union

/-- An ECU that supports the engine speed, and one that supports the vehicle speed. -/
def speeds : List PidEcu := [⟨0x7E8, [0x0C], by decide⟩, ⟨0x7E9, [0x0D], by decide⟩]

/-- Only the PID of the ECU that answers first is found, and each is found alone. -/
theorem readSupportedPids_second_lost :
    (readSupportedPids (bus fun base =>
        (speeds.filter (·.answers base)).map (·.reply base)) ()).1 = .ok [0x0C]
      ∧ speeds.map (fun e => (readSupportedPids e.alone ()).1) = [.ok [0x0C], .ok [0x0D]] := by
  decide

/-- So what is found on the bus of the two is not what is found of each of them. -/
theorem readSupportedPids_union_speeds :
    ∃ l, (readSupportedPids (bus fun base =>
        (speeds.filter (·.answers base)).map (·.reply base)) ()).1 = .ok l
      ∧ ¬ ∀ p, p ∈ l ↔ ∃ e ∈ speeds, e.Alone p := by
  obtain ⟨l, hl, hiff⟩ := readSupportedPids_union
    (fun base => List.Perm.refl (speeds.filter (·.answers base))) (bus_replies _ (by decide))
  refine ⟨l, hl, fun hsame => ?_⟩
  have hreaches : ∀ e : PidEcu, e.Reaches 0 := fun _ i hi => absurd hi (Nat.not_lt_zero i)
  obtain ⟨f, hf, hspeaks⟩ := hiff.mp hsame 0 (by decide) ⟨_, List.mem_cons_self, hreaches _⟩
  obtain rfl : ⟨0x7E8, [0x0C], by decide⟩ = f := Option.some.inj hf
  have hmem := (hspeaks 0x0D (by decide) (by decide)).mpr
    ⟨⟨0x7E9, [0x0D], by decide⟩, by simp [speeds], hreaches _, List.mem_cons_self⟩
  exact absurd hmem (by decide)

/-! ## What can be asked for -/

/-- A PID of one byte is asked for, whatever is answered. -/
theorem readPid_asks (t : Transport σ) {p : Nat} (h : p < 256) (u : σ) :
    ∃ rest, (readPid t.logged p (u, [])).2.2 = .sent [0x01, UInt8.ofNat p] :: rest := by
  have hbuilt : (Call.ofExcept (Py.bytesOf [0x01, (p : Int)])
      : Call Exn (σ × List Exchange) Bytes) (u, []) = (.ok [0x01, UInt8.ofNat p], u, []) :=
    congrArg (·, u, []) (bytesOf_base h)
  cases hreq : t.logged.request [0x01, UInt8.ofNat p] true (u, []) with
  | mk r s' =>
    have hlog : s'.2 = .sent [0x01, UInt8.ofNat p] :: delivery r := by
      have hrun := congrArg (fun r => (r.1, r.2.2)) hreq
      obtain ⟨rfl, hlog⟩ := Prod.mk.inj hrun
      exact hlog.symm
    refine ⟨delivery r, ?_⟩
    rw [readPid, Call.bind_run_ok hbuilt]
    cases r with
    | ok rs =>
      rw [Call.bind_run_ok hreq]
      exact hlog
    | error e =>
      rw [Call.bind_run_error hreq]
      exact hlog

/-- Every PID that is found is at most `0x100`, and that one only if no range is the last. -/
theorem mem_walk_le {bits : Nat → Nat} {p : Nat} (h : p ∈ walk bits ranges) :
    1 ≤ p ∧ (p ≤ 0xFF ∨ p = 0x100 ∧ ∀ i < 8, (bits (32 * i)).testBit 0) := by
  obtain ⟨j, -, hj, hon, hp⟩ := mem_walk.mp h
  obtain ⟨hlow, hhigh, hbit⟩ := mem_pidsOf.mp hp
  refine ⟨by omega, ?_⟩
  by_cases hp : p ≤ 0xFF
  · exact .inl hp
  · -- the last bit of the last range
    refine .inr ⟨by omega, fun i hi => ?_⟩
    by_cases hij : i < j
    · exact hon i (Nat.zero_le i) hij
    · rw [show i = j from by omega]
      rwa [show 32 * j + 32 - p = 0 from by omega] at hbit

/--
**Any replies.** Every PID that is found can be asked for, unless all eight bitmaps
say that a further range follows: the last one then stands for the PID `0x100`.
-/
theorem readSupportedPids_requestable {t : Transport σ} {rs : Nat → List EcuResponse} {s : σ}
    (h : Replies t rs ranges s) :
    ∃ l, (readSupportedPids t s).1 = .ok l
      ∧ ((∀ p ∈ l, (0x01 ≤ p ∧ p ≤ 0xFF)
          ∧ ∀ u, ∃ rest, (readPid t.logged p (u, [])).2.2 = .sent [0x01, UInt8.ofNat p] :: rest)
        ↔ ∃ i < 8, (bitmapIn rs (32 * i)).testBit 0 = false) := by
  refine ⟨_, readSupportedPids_replies h, ?_⟩
  constructor
  · intro hall
    by_contra hon
    have hon : ∀ i < 8, (bitmapIn rs (32 * i)).testBit 0 := by
      intro i hi
      rw [← Bool.not_eq_false]
      exact fun hbit => hon ⟨i, hi, hbit⟩
    have hmem : 0x100 ∈ walk (bitmapIn rs) ranges := mem_walk.mpr ⟨7, by decide, by decide,
      fun i _ hi => hon i (by omega), mem_pidsOf.mpr ⟨by decide, by decide, hon 7 (by decide)⟩⟩
    exact absurd (hall _ hmem).1.2 (by decide)
  · rintro ⟨i, hi, hbit⟩ p hp
    obtain ⟨hlow, hhigh | ⟨-, hon⟩⟩ := mem_walk_le hp
    · exact ⟨⟨hlow, hhigh⟩, readPid_asks t (by omega)⟩
    · rw [hon i hi] at hbit
      cases hbit

/-- Every range says that another one follows, and supports nothing else. -/
def endless (base : Nat) : List EcuResponse :=
  [⟨0x7E8, [0x41, UInt8.ofNat base, 0x00, 0x00, 0x00, 0x01]⟩]

/-- The last PID that is found does not fit a request. -/
theorem readSupportedPids_overflows :
    (readSupportedPids (bus endless) ()).1
        = .ok [0x20, 0x40, 0x60, 0x80, 0xA0, 0xC0, 0xE0, 0x100]
      ∧ (readPid (bus endless) 0x100 ()).1
        = .error (.valueError "bytes must be in range(0, 256)") := by
  decide

/-- So not every PID that is found there can be asked for. -/
theorem readSupportedPids_requestable_endless :
    ∃ l, (readSupportedPids (bus endless) ()).1 = .ok l
      ∧ ¬ ∀ p ∈ l, (0x01 ≤ p ∧ p ≤ 0xFF)
        ∧ ∀ u, ∃ rest, (readPid (Transport.logged (bus endless)) p (u, [])).2.2
          = .sent [0x01, UInt8.ofNat p] :: rest := by
  obtain ⟨l, hl, hiff⟩ := readSupportedPids_requestable (bus_replies endless (by decide))
  refine ⟨l, hl, fun hall => ?_⟩
  have hlast := hiff.mp hall
  revert hlast
  decide

end AutoDiag.Proof

import AutoDiag.Proof.LiveText
import AutoDiag.Protocol.J1979

/-!
# Two readings of the same live data

The graphical interface takes the leftmost occurrence of an expression in the
adapter's text, the core the first reply that echoes the PID and has enough data.
An entry of the table has its occurrence in every such reply and makes of it what
the core does (`Reads`), so the two agree exactly if an occurrence that begins
before that reply has the same digits (`Reads.parse_eq_iff`). The bitmap of the
supported PIDs is compared in the same way.
-/

namespace AutoDiag.Proof

open LiveData Pattern
open Pids (decodePid)

/-! ## The core's reading -/

/-- The reply echoes the PID and has as many bytes of data. -/
def wants (pid : UInt8) (need : Nat) (r : LiveReply) : Bool :=
  r.pid == pid && decide (need ≤ r.data.length)

theorem wants_iff {pid : UInt8} {need : Nat} {r : LiveReply} :
    wants pid need r = true ↔ r.pid = pid ∧ need ≤ r.data.length := by
  simp [wants]

/-- What the core takes for the answers to a PID. -/
def answersOf (rs : List LiveReply) (pid : UInt8) : List Bytes :=
  Obd2.positive (rs.map LiveReply.response) 0x01 (some pid)

theorem answersOf_cons (r : LiveReply) (rs : List LiveReply) (pid : UInt8) :
    answersOf (r :: rs) pid
      = if r.pid = pid then r.message :: answersOf rs pid else answersOf rs pid := by
  rw [answersOf, Obd2.positive, List.map_cons, List.map_cons, List.filter_cons]
  by_cases hpid : r.pid = pid
  · rw [if_pos hpid, if_pos (by simp [LiveReply.response, LiveReply.message, hpid])]
    rfl
  · rw [if_neg hpid, if_neg (by simp [LiveReply.response, LiveReply.message, hpid])]
    rfl

/-- **The core reads the first reply that has enough data.** -/
theorem firstValue_answersOf {pid : UInt8} {spec : Pids.Pid}
    (hspec : Pids.find pid.toNat = some spec)
    (hvalue : ∀ r, wants pid spec.nBytes r = true → ∃ v, decodePid pid.toNat r.data = .ok (some v))
    (rs : List LiveReply) :
    Obd2.firstValue pid.toNat (answersOf rs pid)
      = match rs.find? (wants pid spec.nBytes) with
        | none => .ok none
        | some r => decodePid pid.toNat r.data := by
  induction rs with
  | nil => rfl
  | cons r rs ih =>
    rw [answersOf_cons, List.find?_cons]
    by_cases hpid : r.pid = pid
    · rw [if_pos hpid, Obd2.firstValue]
      by_cases hneed : spec.nBytes ≤ r.data.length
      · have hw : wants pid spec.nBytes r = true := by simp [wants, hpid, hneed]
        obtain ⟨v, hv⟩ := hvalue r hw
        rw [hw, show r.message.drop 2 = r.data from rfl, hv]
        exact hv.symm
      · -- too short for the PID: the core goes on to the next reply
        have hw : wants pid spec.nBytes r = false := by simp [wants, hneed]
        have hshort : decodePid pid.toNat r.data = .ok none := by
          rw [decodePid, hspec]
          exact if_pos (Nat.lt_of_not_le hneed)
        rw [hw, show r.message.drop 2 = r.data from rfl, hshort]
        exact ih
    · have hw : wants pid spec.nBytes r = false := by simp [wants, hpid]
      rw [if_neg hpid, hw]
      exact ih

/-! ## What is compared -/

/-- For the RPM the value is rounded down. -/
def rounded (pid : UInt8) : Pids.Value → Pids.Value
  | .int x => .int x
  | .float q => if pid = 0x0C then .int q.floor else .float q

/-- How many bytes of data a PID of the table has. -/
def needed (pid : UInt8) : Nat := ((Pids.find pid.toNat).map Pids.Pid.nBytes).getD 0

/-- A reply to the PID of an entry that has enough data. -/
def wanted (e : Entry) : LiveReply → Bool := wants e.pid (needed e.pid)

/-- What the core reads, rounded as the interface has it. -/
def coreValue (e : Entry) (rs : List LiveReply) : Except Exn (Option Pids.Value) := do
  let value ← Obd2.firstValue e.pid.toNat (answersOf rs e.pid)
  return value.map (rounded e.pid)

/-- The value of the first reply that is wanted. -/
def firstReading (e : Entry) (rs : List LiveReply) : Except Exn (Option Pids.Value) :=
  match rs.find? (wanted e) with
  | none => return none
  | some r => do
    let value ← decodePid e.pid.toNat r.data
    return value.map (rounded e.pid)

/-- Two numbers that a parser does not tell apart: for the RPM only up to four. -/
def SameReading (e : Entry) (x y : Nat) : Prop := if e.pid = 0x0C then x / 4 = y / 4 else x = y

/-- An occurrence before the first wanted reply has, if there is one, the digits of that reply. -/
def Harmless (e : Entry) (rs : List LiveReply) : Prop :=
  ∀ digits, stray e.parser.pattern (wanted e) rs = some digits →
    ∃ r, rs.find? (wanted e) = some r
      ∧ SameReading e (Hex.toNat digits) (Py.ofBytesBig (r.data.take (digits.length / 2)))

/-! ## One entry -/

/-- An entry that reads the number of the first `n` bytes as the core does, and no two of its
numbers that are to be told apart as one. -/
structure Reads (e : Entry) (n : Nat) (read : Nat → Pids.Value) : Prop where
  pattern : ∃ p q, e.parser.pattern = answer (.one p false) (.one q false) n
    ∧ p (Hex.digit (e.pid.toNat / 16)) = true ∧ q (Hex.digit (e.pid.toNat % 16)) = true
  value : ∀ digits, Digits (2 * n) digits → e.parser.value digits = .ok (read (Hex.toNat digits))
  core : ∃ spec, Pids.find e.pid.toNat = some spec ∧ n ≤ spec.nBytes
    ∧ ∀ data : Bytes, spec.nBytes ≤ data.length → ∃ v, spec.decode data = .ok v
      ∧ rounded e.pid v = read (Py.ofBytesBig (data.take n))
  apart : ∀ x y, x < 256 ^ n → y < 256 ^ n → (read x = read y ↔ SameReading e x y)

namespace Reads

variable {e : Entry} {n : Nat} {read : Nat → Pids.Value}

/-- The decoder has as many bytes as it reads. -/
theorem decode (h : Reads e n read) {r : LiveReply} (hr : wanted e r = true) :
    n ≤ r.data.length ∧ ∃ v, decodePid e.pid.toNat r.data = .ok (some v)
      ∧ rounded e.pid v = read (Py.ofBytesBig (r.data.take n)) := by
  obtain ⟨spec, hspec, hn, hdecode⟩ := h.core
  have hneed : spec.nBytes ≤ r.data.length := by
    have := (wants_iff.mp hr).2
    rwa [needed, hspec] at this
  obtain ⟨v, hv, hread⟩ := hdecode r.data hneed
  refine ⟨Nat.le_trans hn hneed, v, ?_, hread⟩
  rw [decodePid, hspec]
  dsimp only
  rw [if_neg (Nat.not_lt.mpr hneed), hv]
  rfl

theorem finds (h : Reads e n read) : Finds e.parser.pattern (wanted e) n := by
  obtain ⟨p, q, hpattern, hp, hq⟩ := h.pattern
  rw [hpattern]
  refine ⟨rfl, fun r s hr => ?_⟩
  have hpid := (wants_iff.mp hr).1
  rw [← hpid] at hp hq
  exact matchHere_answer (h.decode hr).1 hp hq s

theorem firstReading_eq (h : Reads e n read) (rs : List LiveReply) :
    firstReading e rs = .ok ((rs.find? (wanted e)).map fun r =>
      read (Py.ofBytesBig (r.data.take n))) := by
  rw [firstReading]
  cases hfind : rs.find? (wanted e) with
  | none => rfl
  | some r =>
    obtain ⟨_, v, hv, hread⟩ := h.decode (List.find?_some hfind)
    dsimp only
    rw [hv, Option.map_some, ← hread]
    rfl

/-- **The core reads the first reply that is wanted.** -/
theorem coreValue_eq (h : Reads e n read) (rs : List LiveReply) :
    coreValue e rs = firstReading e rs := by
  obtain ⟨spec, hspec, _⟩ := h.core
  have hwanted : wanted e = wants e.pid spec.nBytes := by
    rw [wanted, needed, hspec]
    rfl
  have hfirst := firstValue_answersOf hspec (fun r hr => by
    obtain ⟨_, v, hv, _⟩ := h.decode (hwanted ▸ hr)
    exact ⟨v, hv⟩) rs
  rw [coreValue, hfirst, firstReading, hwanted]
  cases rs.find? (wants e.pid spec.nBytes) with
  | none => rfl
  | some r => rfl

/-- What a stray occurrence keeps is digits, too. -/
theorem digits (h : Reads e n read) {rs : List LiveReply} {digits : Str}
    (hstray : stray e.parser.pattern (wanted e) rs = some digits) : Digits (2 * n) digits := by
  obtain ⟨p, q, hpattern, _, _⟩ := h.pattern
  have hkept := searchBefore_kept _ _ hstray
  have hclasses : classes (answer (.one p false) (.one q false) n)
      = List.replicate (2 * n) fun c => (Hex.value c).isSome := classes_groups n
  rw [hpattern, hclasses] at hkept
  exact hkept.replicate

/-- The parser reads whatever its expression keeps. -/
theorem parse_eq (h : Reads e n read) (rs : List LiveReply) :
    e.parser.parse (liveText rs) = .ok (((stray e.parser.pattern (wanted e) rs).map
      fun digits => read (Hex.toNat digits)).or
        ((rs.find? (wanted e)).map fun r => read (Py.ofBytesBig (r.data.take n)))) := by
  rw [Parser.parse, search_liveText h.finds]
  cases hstray : stray e.parser.pattern (wanted e) rs with
  | some digits =>
    rw [Option.some_or]
    dsimp only
    rw [h.value _ (h.digits hstray)]
    rfl
  | none =>
    cases hfind : rs.find? (wanted e) with
    | none => rfl
    | some r =>
      obtain ⟨hn, _⟩ := h.decode (List.find?_some hfind)
      rw [Option.none_or, Option.map_some]
      dsimp only
      rw [h.value _ (digits_ofBytes hn), toNat_ofBytes]
      rfl

/-- **The parser and the core agree exactly if no stray occurrence has other digits.** -/
theorem parse_eq_iff (h : Reads e n read) (rs : List LiveReply) :
    e.parser.parse (liveText rs) = firstReading e rs ↔ Harmless e rs := by
  rw [h.parse_eq, h.firstReading_eq, Harmless, Except.ok.injEq]
  cases hstray : stray e.parser.pattern (wanted e) rs with
  | none => simp
  | some digits =>
    have hdigits := h.digits hstray
    have hlen : digits.length / 2 = n := by
      rw [hdigits.1]
      omega
    have hapart := fun r : LiveReply =>
      h.apart _ _ hdigits.toNat_lt (ofBytesBig_take_lt r.data n)
    rw [Option.map_some, Option.some_or, eq_comm, Option.map_eq_some_iff]
    constructor
    · rintro ⟨r, hfind, hread⟩ _ ⟨⟩
      exact ⟨r, hfind, hlen ▸ (hapart r).mp hread.symm⟩
    · intro hall
      obtain ⟨r, hfind, hsame⟩ := hall digits rfl
      exact ⟨r, hfind, ((hapart r).mpr (hlen ▸ hsame)).symm⟩

end Reads

/-! ## The entries of the table -/

theorem ofBytesBig_one (a : UInt8) : Py.ofBytesBig [a] = a.toNat := by
  rw [Py.ofBytesBig, List.foldl_cons, List.foldl_nil, Nat.mul_zero, Nat.zero_add]

theorem ofBytesBig_two (a b : UInt8) : Py.ofBytesBig [a, b] = 256 * a.toNat + b.toNat := by
  rw [Py.ofBytesBig, List.foldl_cons, List.foldl_cons, List.foldl_nil, Nat.mul_zero, Nat.zero_add]

/-- A parser of one byte, and a decoder that reads the first of its own. -/
theorem reads_one {e : Entry} {spec : Pids.Pid} {read : Nat → Pids.Value} (p q : Char → Bool)
    (hpattern : e.parser.pattern = answer (.one p false) (.one q false) 1)
    (hp : p (Hex.digit (e.pid.toNat / 16)) = true) (hq : q (Hex.digit (e.pid.toNat % 16)) = true)
    (hvalue : ∀ digits (x : Nat), group digits 0 = .ok (x : Int) →
      e.parser.value digits = .ok (read x))
    (hspec : Pids.find e.pid.toNat = some spec) (hn : 1 ≤ spec.nBytes)
    (hcore : ∀ a rest, ∃ v, spec.decode (a :: rest) = .ok v ∧ rounded e.pid v = read a.toNat)
    (hpid : e.pid ≠ 0x0C) (hinj : ∀ x y, x < 256 → y < 256 → read x = read y → x = y) :
    Reads e 1 read where
  pattern := ⟨p, q, hpattern, hp, hq⟩
  value digits hd := hvalue digits _ (group_first hd)
  core := by
    refine ⟨spec, hspec, hn, fun data hdata => ?_⟩
    obtain ⟨a, rest, rfl⟩ := List.exists_cons_of_length_pos (Nat.le_trans hn hdata)
    rw [List.take_succ_cons, List.take_zero, ofBytesBig_one]
    exact hcore a rest
  apart x y hx hy := by
    rw [SameReading, if_neg hpid]
    exact ⟨hinj x y hx hy, congrArg read⟩

/-- A parser of two bytes, and a decoder of two. -/
theorem reads_two {e : Entry} {spec : Pids.Pid} {read : Nat → Pids.Value} (p q : Char → Bool)
    (hpattern : e.parser.pattern = answer (.one p false) (.one q false) 2)
    (hp : p (Hex.digit (e.pid.toNat / 16)) = true) (hq : q (Hex.digit (e.pid.toNat % 16)) = true)
    (hvalue : ∀ digits (x : Nat), wordOf digits = .ok (x : Int) →
      e.parser.value digits = .ok (read x))
    (hspec : Pids.find e.pid.toNat = some spec) (hn : 2 ≤ spec.nBytes)
    (hcore : ∀ a b rest, ∃ v, spec.decode (a :: b :: rest) = .ok v
      ∧ rounded e.pid v = read (256 * a.toNat + b.toNat))
    (hapart : ∀ x y, x < 65536 → y < 65536 → (read x = read y ↔ SameReading e x y)) :
    Reads e 2 read where
  pattern := ⟨p, q, hpattern, hp, hq⟩
  value digits hd := hvalue digits _ (wordOf_digits hd)
  core := by
    refine ⟨spec, hspec, hn, fun data hdata => ?_⟩
    obtain ⟨a, rest, rfl⟩ := List.exists_cons_of_length_pos (show 0 < data.length by omega)
    rw [List.length_cons] at hdata
    obtain ⟨b, rest, rfl⟩ := List.exists_cons_of_length_pos (show 0 < rest.length by omega)
    rw [List.take_succ_cons, List.take_succ_cons, List.take_zero, ofBytesBig_two]
    exact hcore a b rest
  apart := hapart

/-- The RPM are a double, so rounding down is a division of integers. -/
theorem floor_quarter {x : Nat} (h : x < 65536) : (Py.fdiv (x : ℚ) 4).floor = (x : Int) / 4 := by
  have hdouble : Py.double ((x : ℚ) / 2 ^ 2) = x / 2 ^ 2 :=
    Py.double_dyadic (by omega) (by omega)
  rw [Py.fdiv, show (4 : ℚ) = 2 ^ 2 by norm_num, hdouble]
  have hfloor := Rat.floor_intCast_div_natCast (x : Int) 4
  rw [show ((2 : ℚ) ^ 2) = ((4 : Nat) : ℚ) by norm_num]
  exact hfloor

/-- A percentage begins with a product that is a double. -/
theorem fmul_hundred (a : UInt8) : Py.fmul a.toNat 100 = (a.toNat * 100 : Nat) := by
  have ha := a.toNat_lt
  have hdouble : Py.double (((a.toNat * 100 : Nat) : ℚ) / 2 ^ 0) = (a.toNat * 100 : Nat) / 2 ^ 0 :=
    Py.double_dyadic (by omega) (by omega)
  rw [pow_zero, div_one] at hdouble
  rw [Py.fmul, ← hdouble]
  push_cast
  rfl

/-- The interface divides the word by four and drops the fraction. -/
theorem reads_rpm : Reads ⟨"RPM", 0x0C, parseRpmResponse⟩ 2 fun x => .int ((x : Int) / 4) := by
  refine reads_two (· == '0') (· == 'C') rfl (by decide) (by decide) (fun digits x hx => ?_)
    rfl (Nat.le_refl 2) (fun a b rest => ⟨_, rfl, ?_⟩) fun x y _ _ => ?_
  · show (wordOf digits >>= fun x => pure (Pids.Value.int (x / 4))) = _
    rw [hx]
    rfl
  · have ha := a.toNat_lt
    have hb := b.toNat_lt
    rw [rounded, if_pos rfl, floor_quarter (by omega)]
  · rw [SameReading, if_pos rfl, Pids.Value.int.injEq]
    omega

/-- A hundredth of the word. -/
theorem reads_maf : Reads ⟨"MAF Rate", 0x10, parseMafResponse⟩ 2
    fun x => .float (Py.fdiv x (100 : Nat)) := by
  refine reads_two (· == '1') (· == '0') rfl (by decide) (by decide) (fun digits x hx => ?_)
    rfl (Nat.le_refl 2) (fun a b rest => ⟨_, rfl, ?_⟩) fun x y hx hy => ?_
  · show (wordOf digits >>= fun x => pure (Pids.Value.float (Py.fdiv x 100))) = _
    rw [hx]
    rfl
  · rw [rounded, if_neg (by decide)]
    rfl
  · rw [SameReading, if_neg (by decide), Pids.Value.float.injEq]
    exact ⟨Py.fdiv_injective hx hy (by decide) (by decide), fun h => h ▸ rfl⟩

/-- The byte itself. -/
theorem reads_speed : Reads ⟨"Vehicle Speed", 0x0D, parseSpeedResponse⟩ 1 fun x => .int x := by
  refine reads_one (· == '0') (· == 'D') rfl (by decide) (by decide) (fun digits x hx => ?_)
    rfl (Nat.le_refl 1) (fun a rest => ⟨_, rfl, ?_⟩) (by decide) fun x y _ _ h => ?_
  · show (group digits 0 >>= fun a => pure (Pids.Value.int a)) = _
    rw [hx]
    rfl
  · rw [rounded, mul_one, sub_zero]
  · exact Int.ofNat.inj (Pids.Value.int.inj h)

/-- A temperature, whose expression takes any PID up to `5F`. -/
theorem reads_temp {e : Entry} {spec : Pids.Pid} (hparser : e.parser = parseTempResponse)
    (hfirst : Hex.digit (e.pid.toNat / 16) = '0') (hpid : e.pid ≠ 0x0C)
    (hspec : Pids.find e.pid.toNat = some spec) (hone : spec.nBytes = 1)
    (hdecode : spec.decode = Pids.scaled 1 40) : Reads e 1 fun x => .int (x - 40) := by
  have hlt := e.pid.toNat_lt
  refine reads_one (fun c => '0' ≤ c && c ≤ '5') (fun c => (Hex.value c).isSome)
    (hparser ▸ rfl) (by rw [hfirst]; rfl) (Hex.value_of_mem_digits (Hex.digit_mem (by omega)))
    (fun digits x hx => ?_) hspec (Nat.le_of_eq hone.symm)
    (fun a rest => ⟨.int (a.toNat * 1 - 40), ?_, ?_⟩) hpid fun x y _ _ h => ?_
  · rw [hparser]
    show (group digits 0 >>= fun a => pure (Pids.Value.int (a - 40))) = _
    rw [hx]
    rfl
  · rw [hdecode]
    rfl
  · rw [rounded, mul_one]
  · have hsub := Pids.Value.int.inj h
    omega

/-- A percentage of 255. -/
theorem reads_throttle : Reads ⟨"Throttle Position", 0x11, parseThrottleResponse⟩ 1
    fun x => .float (Py.fdiv ((x * 100 : Nat) : ℚ) (255 : Nat)) := by
  refine reads_one (· == '1') (· == '1') rfl (by decide) (by decide) (fun digits x hx => ?_)
    rfl (Nat.le_refl 1) (fun a rest => ⟨_, rfl, ?_⟩) (by decide) fun x y hx hy h => ?_
  · show (group digits 0 >>= fun a =>
      pure (Pids.Value.float (Py.fdiv ((a * 100 : Int) : ℚ) 255))) = _
    rw [hx]
    rfl
  · rw [rounded, if_neg (by decide), fmul_hundred]
    rfl
  · have hmul := Py.fdiv_injective (by omega) (by omega) (by decide) (by decide)
      (Pids.Value.float.inj h)
    omega

theorem reads_fuelPressure : Reads ⟨"Fuel Pressure", 0x0A, parseFuelPressureResponse⟩ 1
    fun x => .int (x * 3) := by
  refine reads_one (· == '0') (· == 'A') rfl (by decide) (by decide) (fun digits x hx => ?_)
    rfl (Nat.le_refl 1) (fun a rest => ⟨_, rfl, ?_⟩) (by decide) fun x y _ _ h => ?_
  · show (group digits 0 >>= fun a => pure (Pids.Value.int (a * 3))) = _
    rw [hx]
    rfl
  · rw [rounded, sub_zero]
  · have hmul := Pids.Value.int.inj h
    omega

theorem reads_o2Sensor : Reads ⟨"O2 Sensor (Bank 1)", 0x14, parseO2SensorResponse⟩ 1
    fun x => .float (Py.fdiv x (200 : Nat)) := by
  refine reads_one (· == '1') (· == '4') rfl (by decide) (by decide) (fun digits x hx => ?_)
    rfl (by decide) (fun a rest => ⟨_, rfl, ?_⟩) (by decide) fun x y hx hy h => ?_
  · show (group digits 0 >>= fun a => pure (Pids.Value.float (Py.fdiv a 200))) = _
    rw [hx]
    rfl
  · rw [rounded, if_neg (by decide)]
    rfl
  · exact Py.fdiv_injective (by omega) (by omega) (by decide) (by decide)
      (Pids.Value.float.inj h)

theorem reads_entry : ∀ e ∈ pidMap, ∃ n read, Reads e n read := by
  rw [pidMap]
  simp only [List.forall_mem_cons, List.not_mem_nil, false_implies, implies_true, and_true]
  exact ⟨⟨_, _, reads_rpm⟩, ⟨_, _, reads_speed⟩,
    ⟨_, _, reads_temp rfl rfl (by decide) rfl rfl rfl⟩, ⟨_, _, reads_throttle⟩,
    ⟨_, _, reads_temp rfl rfl (by decide) rfl rfl rfl⟩, ⟨_, _, reads_maf⟩,
    ⟨_, _, reads_fuelPressure⟩, ⟨_, _, reads_o2Sensor⟩⟩

/-! ## The supported PIDs -/

theorem zfill_append (w : Nat) (s : Str) (c : Char) :
    zfill (w + 1) (s ++ [c]) = zfill w s ++ [c] := by
  rw [zfill, zfill, List.length_append, List.length_singleton, Nat.add_sub_add_right,
    List.append_assoc]

/-- `1` for a bit that is set. -/
def bitOf (n i : Nat) : Char := if n.testBit i then '1' else '0'

theorem digitChar_mod_two (n : Nat) : (n % 2).digitChar = bitOf n 0 := by
  rw [bitOf, Nat.testBit_zero]
  rcases Nat.mod_two_eq_zero_or_one n with h | h
  · rw [h]
    rfl
  · rw [h]
    rfl

/-- **A number in so many binary digits, from the highest bit.** -/
theorem zfill_toDigits (w : Nat) {n : Nat} (h : n < 2 ^ (w + 1)) :
    zfill (w + 1) (Nat.toDigits 2 n) = (List.range (w + 1)).map fun i => bitOf n (w - i) := by
  induction w generalizing n with
  | zero =>
    have hn : n < 2 := h
    rw [Nat.toDigits_of_lt_base hn, ← Nat.mod_eq_of_lt hn, digitChar_mod_two, Nat.mod_eq_of_lt hn]
    rfl
  | succ w ih =>
    have hhalf : n / 2 < 2 ^ (w + 1) := by
      rw [Nat.pow_succ] at h
      omega
    -- the last digit is the lowest bit, and those before it are the half's
    have hdigits : zfill (w + 1 + 1) (Nat.toDigits 2 n)
        = zfill (w + 1) (Nat.toDigits 2 (n / 2)) ++ [(n % 2).digitChar] := by
      rcases Nat.lt_or_ge n 2 with hn | hn
      · rw [Nat.toDigits_of_lt_base hn, show n / 2 = 0 by omega, Nat.toDigits_zero,
          Nat.mod_eq_of_lt hn]
        simp [zfill, List.replicate_succ']
      · rw [Nat.toDigits_of_base_le (by decide) hn, zfill_append]
    have hshift : ∀ i ∈ List.range (w + 1), bitOf (n / 2) (w - i) = bitOf n (w + 1 - i) := by
      intro i hi
      have hlt := List.mem_range.mp hi
      rw [bitOf, bitOf, Nat.testBit_div_two, show w - i + 1 = w + 1 - i by omega]
    rw [hdigits, ih hhalf, digitChar_mod_two, List.map_congr_left hshift,
      List.range_succ (n := w + 1), List.map_append, List.map_singleton, Nat.sub_self]

theorem zipIdx_range (n : Nat) : (List.range n).zipIdx = (List.range n).map fun i => (i, i) := by
  refine List.ext_getElem (by simp) fun i _ _ => ?_
  simp

/-- One command for each bit that is set, counted from the highest. -/
theorem commandsOf_eq {digits : Str} {n : Nat} (hn : n < 2 ^ 32)
    (h : Py.intOfHex digits = .ok (n : Int)) :
    commandsOf digits = .ok ((Obd2.pidsOf 0 n).map command) := by
  have hlist : (zfill 32 (Nat.toDigits 2 n)).zipIdx.filterMap
      (fun x => if x.1 = '1' then some (command (x.2 + 1)) else none)
        = (Obd2.pidsOf 0 n).map command := by
    rw [zfill_toDigits 31 hn, List.zipIdx_map, zipIdx_range, List.map_map, List.filterMap_map,
      Obd2.pidsOf, List.map_map, ← List.filterMap_eq_map, List.filterMap_filter]
    refine List.filterMap_congr fun i _ => ?_
    simp [bitOf]
  rw [commandsOf, h]
  exact congrArg Except.ok hlist

/-- The bitmap of the first reply to `01 00` that is long enough, as a number. -/
def firstBits (rs : List LiveReply) : Nat :=
  match rs.find? (wants 0x00 4) with
  | none => 0
  | some r => Py.ofBytesBig (r.data.take 4)

/-- An occurrence before that reply has the digits of the bitmap, or of none. -/
def HarmlessBitmap (rs : List LiveReply) : Prop :=
  ∀ digits, stray supportedPattern (wants 0x00 4) rs = some digits →
    Hex.toNat digits = firstBits rs

theorem finds_supported : Finds supportedPattern (wants 0x00 4) 4 where
  nil := rfl
  body r s hr := by
    obtain ⟨hpid, hlen⟩ := wants_iff.mp hr
    rw [body_append, hpid, supportedPattern]
    exact (matchHere_lit ..).trans ((matchHere_lit ..).trans ((matchHere_lit ..).trans
      ((matchHere_lit ..).trans (matchHere_digits hlen _))))

theorem digits_supported {rs : List LiveReply} {digits : Str}
    (h : stray supportedPattern (wants 0x00 4) rs = some digits) : Digits (2 * 4) digits := by
  have hkept : Kept (List.replicate 8 fun c => (Hex.value c).isSome) digits :=
    searchBefore_kept _ _ h
  exact hkept.replicate

theorem parseSupportedPids_eq (rs : List LiveReply) :
    parseSupportedPids (liveText rs) = .ok ((Obd2.pidsOf 0
      (((stray supportedPattern (wants 0x00 4) rs).map Hex.toNat).getD (firstBits rs))).map
        command) := by
  have hread : ∀ {digits : Str}, Digits (2 * 4) digits →
      commandsOf digits = .ok ((Obd2.pidsOf 0 (Hex.toNat digits)).map command) := fun hd =>
    commandsOf_eq hd.toNat_lt hd.intOfHex
  rw [parseSupportedPids, search_liveText finds_supported]
  cases hstray : stray supportedPattern (wants 0x00 4) rs with
  | some digits => exact hread (digits_supported hstray)
  | none =>
    rw [firstBits]
    cases hfind : rs.find? (wants 0x00 4) with
    | none => rfl
    | some r =>
      have hlen := (wants_iff.mp (List.find?_some hfind)).2
      rw [Option.none_or, Option.map_some]
      dsimp only
      rw [hread (digits_ofBytes hlen), toNat_ofBytes]
      rfl

theorem command_injective {i j : Nat} (hi : i < 256) (hj : j < 256) (h : command i = command j) :
    i = j := by
  have hbyte : Hex.ofByte (UInt8.ofNat i) = Hex.ofByte (UInt8.ofNat j) :=
    (List.cons.inj (List.cons.inj h).2).2
  have hnat := congrArg Hex.toNat hbyte
  rw [toNat_ofByte, toNat_ofByte, UInt8.toNat_ofNat', UInt8.toNat_ofNat'] at hnat
  omega

/-- A command is there exactly if its bit is set. -/
theorem mem_commands {n i : Nat} (hi : i < 32) :
    command (i + 1) ∈ (Obd2.pidsOf 0 n).map command ↔ n.testBit (31 - i) = true := by
  rw [Obd2.pidsOf, List.map_map, List.mem_map]
  constructor
  · rintro ⟨j, hj, heq⟩
    obtain ⟨hj, hbit⟩ := List.mem_filter.mp hj
    have hlt := List.mem_range.mp hj
    have hij : 0 + j + 1 = i + 1 := command_injective (by omega) (by omega) heq
    rwa [show i = j by omega]
  · intro hbit
    refine ⟨i, List.mem_filter.mpr ⟨List.mem_range.mpr hi, hbit⟩, ?_⟩
    rw [Function.comp_apply, Nat.zero_add]

/-- **Two bitmaps with the same commands are the same.** -/
theorem commands_injective {m n : Nat} (hm : m < 2 ^ 32) (hn : n < 2 ^ 32)
    (h : (Obd2.pidsOf 0 m).map command = (Obd2.pidsOf 0 n).map command) : m = n := by
  refine Nat.eq_of_testBit_eq fun k => ?_
  rcases Nat.lt_or_ge k 32 with hk | hk
  · have hbits := mem_commands (n := m) (show 31 - k < 32 by omega)
    rw [h, mem_commands (by omega), show 31 - (31 - k) = k by omega] at hbits
    exact (Bool.eq_iff_iff.mpr hbits).symm
  · have hpow : 2 ^ 32 ≤ 2 ^ k := Nat.pow_le_pow_right (by decide) hk
    rw [Nat.testBit_lt_two_pow (Nat.lt_of_lt_of_le hm hpow),
      Nat.testBit_lt_two_pow (Nat.lt_of_lt_of_le hn hpow)]

theorem firstBits_lt (rs : List LiveReply) : firstBits rs < 2 ^ 32 := by
  rw [firstBits]
  split
  · decide
  · exact ofBytesBig_take_lt _ 4

theorem parseSupportedPids_eq_iff (rs : List LiveReply) :
    parseSupportedPids (liveText rs) = .ok ((Obd2.pidsOf 0 (firstBits rs)).map command)
      ↔ HarmlessBitmap rs := by
  rw [parseSupportedPids_eq, HarmlessBitmap, Except.ok.injEq]
  cases hstray : stray supportedPattern (wants 0x00 4) rs with
  | none => simp
  | some digits =>
    have hlt : Hex.toNat digits < 2 ^ 32 := (digits_supported hstray).toNat_lt
    constructor
    · rintro hlist _ ⟨⟩
      exact commands_injective hlt (firstBits_lt rs) hlist
    · intro hall
      rw [Option.map_some, Option.getD_some, hall digits rfl]

/-! ## All of them -/

/-- **The interface reads what the core reads, but for stray occurrences.** -/
theorem livePids_agree_iff (rs : List LiveReply) :
    (∀ e ∈ pidMap, coreValue e rs = firstReading e rs
      ∧ (e.parser.parse (liveText rs) = firstReading e rs ↔ Harmless e rs))
    ∧ (parseSupportedPids (liveText rs) = .ok ((Obd2.pidsOf 0 (firstBits rs)).map command)
      ↔ HarmlessBitmap rs) := by
  refine ⟨fun e he => ?_, parseSupportedPids_eq_iff rs⟩
  obtain ⟨n, read, h⟩ := reads_entry e he
  exact ⟨h.coreValue_eq rs, h.parse_eq_iff rs⟩

/-- The coolant temperature out of an answer with the speed. -/
theorem coolant_reads_speed :
    parseTempResponse.parse (liveText [⟨0x7E8, 0x0D, [0x32], [], by decide, by decide⟩])
        = .ok (some (.int 10))
      ∧ firstReading ⟨"Coolant Temp", 0x05, parseTempResponse⟩
        [⟨0x7E8, 0x0D, [0x32], [], by decide, by decide⟩] = .ok none :=
  ⟨rfl, rfl⟩

end AutoDiag.Proof

import AutoDiag.Simulator.EcuSim
import AutoDiag.Transport.Fake
import Mathlib.Data.Nat.Bitwise

/-!
# The simulator and the client agree on trouble codes

A display code is packed into two bytes by `encodeDtc` and unpacked by
`decodeDtc`; both are followed digit by digit, and the answer to mode 03 is
followed code by code.
-/

namespace AutoDiag.Proof

open Dtc

/-! ## Display codes -/

/-- A display code: its letter, a digit up to 3 and three upper-case hexadecimal digits. -/
def IsCode (code : Str) : Prop :=
  ∃ letter first second third fourth, code = [letter, first, second, third, fourth]
    ∧ letter ∈ ['P', 'C', 'B', 'U'] ∧ first ∈ ['0', '1', '2', '3']
    ∧ second ∈ Hex.digits ∧ third ∈ Hex.digits ∧ fourth ∈ Hex.digits

/-- The display code of a category, a first digit and three more. -/
def display (k d a b c : Nat) : Str :=
  [category k, Hex.digit d, Hex.digit a, Hex.digit b, Hex.digit c]

theorem isCode_eq_display {code : Str} (h : IsCode code) :
    ∃ k d a b c, k < 4 ∧ d < 4 ∧ a < 16 ∧ b < 16 ∧ c < 16 ∧ code = display k d a b c := by
  have hcategory : ∀ l ∈ ['P', 'C', 'B', 'U'], ∃ k, k < 4 ∧ l = category k := by
    intro l hl
    simp only [List.mem_cons, List.not_mem_nil, or_false] at hl
    rcases hl with rfl | rfl | rfl | rfl
    · exact ⟨0, by decide, rfl⟩
    · exact ⟨1, by decide, rfl⟩
    · exact ⟨2, by decide, rfl⟩
    · exact ⟨3, by decide, rfl⟩
  have hfirst : ∀ f ∈ ['0', '1', '2', '3'], ∃ d, d < 4 ∧ f = Hex.digit d := by
    intro f hf
    simp only [List.mem_cons, List.not_mem_nil, or_false] at hf
    rcases hf with rfl | rfl | rfl | rfl
    · exact ⟨0, by decide, rfl⟩
    · exact ⟨1, by decide, rfl⟩
    · exact ⟨2, by decide, rfl⟩
    · exact ⟨3, by decide, rfl⟩
  obtain ⟨l, f, x, y, z, rfl, hl, hf, hx, hy, hz⟩ := h
  obtain ⟨k, hk, rfl⟩ := hcategory l hl
  obtain ⟨d, hd, rfl⟩ := hfirst f hf
  obtain ⟨a, ha, rfl⟩ := Hex.mem_digits hx
  obtain ⟨b, hb, rfl⟩ := Hex.mem_digits hy
  obtain ⟨c, hc, rfl⟩ := Hex.mem_digits hz
  exact ⟨k, d, a, b, c, hk, hd, ha, hb, hc, rfl⟩

/-! ## One code -/

theorem categoryIndex_category {k : Nat} (h : k < 4) : categoryIndex (category k) = .ok k := by
  interval_cases k <;> rfl

theorem intOfHex_digits {s : Str} (h : ∀ c ∈ s, c ∈ Hex.digits) (hne : s ≠ []) :
    Py.intOfHex s = .ok (Hex.toNat s : Int) := by
  rw [Py.intOfHex, Py.intBase16_digits (fun c hc => Hex.value_of_mem_digits (h c hc)) hne]

/-- The fields of a code, one above the other. -/
theorem lor_fields {k d r : Nat} (hd : d < 4) (hr : r < 4096) :
    Int.lor (Int.lor ((k : Int) <<< (14 : Nat)) ((d : Int) <<< (12 : Nat))) r
      = ((16384 * k + 4096 * d + r : Nat) : Int) := by
  have hkd : k <<< 14 ||| d <<< 12 = 16384 * k + 4096 * d := by
    rw [← Nat.shiftLeft_add_eq_or_of_lt (by rw [Nat.shiftLeft_eq]; omega), Nat.shiftLeft_eq,
      Nat.shiftLeft_eq]
    omega
  have hr' : (4 * k + d) <<< 12 ||| r = 4096 * (4 * k + d) + r := by
    rw [← Nat.shiftLeft_add_eq_or_of_lt hr, Nat.shiftLeft_eq]
    omega
  have hsplit : 16384 * k + 4096 * d = (4 * k + d) <<< 12 := by
    rw [Nat.shiftLeft_eq]
    omega
  show ((k <<< 14 ||| d <<< 12 ||| r : Nat) : Int) = _
  rw [hkd, hsplit, hr', ← hsplit]
  congr 1
  omega

/-- **A display code is two bytes**: letter, first and second digit, then the last two. -/
theorem encodeDtc_display {k d a b c : Nat} (hk : k < 4) (hd : d < 4) (ha : a < 16) (hb : b < 16)
    (hc : c < 16) :
    encodeDtc (display k d a b c)
      = .ok [UInt8.ofNat (64 * k + 16 * d + a), UInt8.ofNat (16 * b + c)] := by
  have hfirst : Py.intOfHex [Hex.digit d] = .ok (d : Int) := by
    rw [intOfHex_digits (by simpa using Hex.digit_mem (by omega)) (by simp)]
    simp [Hex.toNat, Hex.value_digit (by omega : d < 16)]
  have hrest : Py.intOfHex [Hex.digit a, Hex.digit b, Hex.digit c]
      = .ok ((256 * a + 16 * b + c : Nat) : Int) := by
    rw [intOfHex_digits (by simp [Hex.digit_mem ha, Hex.digit_mem hb, Hex.digit_mem hc])
      (by simp)]
    simp only [Hex.toNat, List.foldl_cons, List.foldl_nil, Hex.value_digit ha,
      Hex.value_digit hb, Hex.value_digit hc, Option.getD_some]
    congr 2
    omega
  -- the fields do not overlap, so the or of them is their sum
  have hvalue := lor_fields (k := k) (r := 256 * a + 16 * b + c) hd (by omega)
  have hhi : Py.lowByte (((16384 * k + 4096 * d + (256 * a + 16 * b + c) : Nat) : Int)
      >>> (8 : Nat)) = UInt8.ofNat (64 * k + 16 * d + a) := by
    rw [Py.lowByte]
    congr 1
    simp only [Int.shiftRight_eq_div_pow]
    omega
  have hlo : Py.lowByte ((16384 * k + 4096 * d + (256 * a + 16 * b + c) : Nat) : Int)
      = UInt8.ofNat (16 * b + c) := by
    rw [Py.lowByte]
    congr 1
    omega
  simp only [encodeDtc, display, Py.charAt, List.getElem?_cons_zero, List.getElem?_cons_succ,
    List.drop_succ_cons, List.drop_zero, categoryIndex_category hk, hfirst, hrest,
    Raise.ok_bind, hvalue, hhi, hlo]
  rfl

/-- **What `encode_dtc` packs, `decode_dtc` unpacks.** -/
theorem decodeDtc_display {k d a b c : Nat} (hk : k < 4) (hd : d < 4) (ha : a < 16) (hb : b < 16)
    (hc : c < 16) :
    decodeDtc (UInt8.ofNat (64 * k + 16 * d + a)) (UInt8.ofNat (16 * b + c))
      = display k d a b c := by
  have hhi : ∀ k < 4, ∀ d < 4, ∀ a < 16,
      ((UInt8.ofNat (64 * k + 16 * d + a) &&& 0xC0) >>> 6).toNat = k
        ∧ ((UInt8.ofNat (64 * k + 16 * d + a) &&& 0x30) >>> 4).toNat = d
        ∧ (UInt8.ofNat (64 * k + 16 * d + a) &&& 0x0F).toNat = a := by
    decide
  obtain ⟨hk', hd', ha'⟩ := hhi k hk d hd a ha
  have hlo : (UInt8.ofNat (16 * b + c)).toNat = 16 * b + c := by
    rw [UInt8.toNat_ofNat']
    omega
  rw [decodeDtc, hk', hd', ha', Hex.ofByte, hlo]
  rw [show (16 * b + c) / 16 = b by omega, show (16 * b + c) % 16 = c by omega]
  rfl

/-- A code on its way to the client and back. -/
theorem code_roundtrip {code : Str} (h : IsCode code) :
    ∃ hi lo, encodeDtc code = .ok [hi, lo] ∧ decodeDtc hi lo = code := by
  obtain ⟨k, d, a, b, c, hk, hd, ha, hb, hc, rfl⟩ := isCode_eq_display h
  exact ⟨_, _, encodeDtc_display hk hd ha hb hc, decodeDtc_display hk hd ha hb hc⟩

/-! ## All codes -/

open Obd2

/-- **The answer's body is read back code by code**, without the entries for no code. -/
theorem decodePairs_encodeAll {codes : List Str} (h : ∀ code ∈ codes, IsCode code) :
    ∃ body, SimulatedEcu.encodeAll codes = .ok body ∧ body.length = 2 * codes.length
      ∧ decodePairs (2 * codes.length) body = codes.filter (· ≠ Dtc.none) := by
  induction codes with
  | nil => exact ⟨[], rfl, rfl, rfl⟩
  | cons code codes ih =>
    obtain ⟨body, henc, hlen, hdec⟩ := ih fun c hc => h c (List.mem_cons_of_mem _ hc)
    obtain ⟨hi, lo, hpair, hcode⟩ := code_roundtrip (h code (List.mem_cons_self ..))
    refine ⟨hi :: lo :: body, ?_, ?_, ?_⟩
    · rw [SimulatedEcu.encodeAll, hpair, henc]
      rfl
    · simp only [List.length_cons, hlen]
      omega
    · rw [List.length_cons, Nat.mul_add, decodePairs, hcode, hdec, List.filter_cons]
      by_cases hnone : code = Dtc.none
      · simp [hnone]
      · simp [hnone]

/-- **Simulator and client agree.** What a client reads from the simulator's answer to mode 03
are the stored codes in their order, without the entries that stand for no code. -/
theorem readDtcs_simulated (ecu : SimulatedEcu) (hcodes : ∀ code ∈ ecu.dtcs, IsCode code)
    (hcount : ecu.dtcs.length ≤ 255) :
    ∃ answer, ecu.handle [0x03] = .ok answer ∧
      ∀ {σ : Type} (t : Transport σ) (s s' : σ) (source : Nat),
        t.request [0x03] true s = (.ok [⟨source, answer⟩], s') →
          readDtcs t s = (.ok (ecu.dtcs.filter (· ≠ Dtc.none)), s') := by
  obtain ⟨body, henc, hlen, hdec⟩ := decodePairs_encodeAll hcodes
  have hbyte : Py.toArrayByte ecu.dtcs.length = .ok (UInt8.ofNat ecu.dtcs.length) := by
    rw [Py.toArrayByte_of_range ⟨by omega, by omega⟩, Py.lowByte_natCast]
  refine ⟨0x43 :: UInt8.ofNat ecu.dtcs.length :: body, ?_, ?_⟩
  · simp [SimulatedEcu.handle, hbyte, henc]
  intro σ t s s' source hreq
  have hn : (UInt8.ofNat ecu.dtcs.length).toNat * 2 = 2 * ecu.dtcs.length := by
    rw [UInt8.toNat_ofNat']
    omega
  have hparse : parseDtcPayload (0x43 :: UInt8.ofNat ecu.dtcs.length :: body)
      = ecu.dtcs.filter (· ≠ Dtc.none) := by
    rw [parseDtcPayload, hn, hlen, show 2 * ecu.dtcs.length
      - 2 * ecu.dtcs.length % 2 = 2 * ecu.dtcs.length by omega, Nat.min_self, hdec]
  rw [readDtcs, readDtcsOf, Call.bind_run_ok hreq, Call.pure_run]
  simp [positive, hparse]

theorem readDtcs_simulated_four :
    ∃ answer, (SimulatedEcu.mk [] [['U', '1', 'F', '3', 'A'], ['P', '0', '0', '0', '0'],
        ['B', '0', '0', '0', '1'], ['C', '3', 'F', 'F', 'F']]).handle [0x03] = .ok answer ∧
      readDtcs (Fake.transport (.mapping fun _ => .bytes answer)) ⟨true, [], []⟩
        = (.ok [['U', '1', 'F', '3', 'A'], ['B', '0', '0', '0', '1'], ['C', '3', 'F', 'F', 'F']],
          ⟨true, [[0x03]], []⟩) := by
  obtain ⟨answer, hanswer, hread⟩ := readDtcs_simulated
    ⟨[], [['U', '1', 'F', '3', 'A'], ['P', '0', '0', '0', '0'], ['B', '0', '0', '0', '1'],
      ['C', '3', 'F', 'F', 'F']]⟩
    (by simp [IsCode, Hex.digits]) (by decide)
  exact ⟨answer, hanswer, hread _ _ _ 0x7E8 rfl⟩

end AutoDiag.Proof

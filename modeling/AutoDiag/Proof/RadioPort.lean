import AutoDiag.Proof.HondaPort
import AutoDiag.Proof.RadioCode

/-!
# How far the port of `RenaultRadio` agrees

The numbers stay far below 2^31, so an `int` computes what Python does. What differs
is the upper case: .NET has one for the accented letters of Latin-1 as well, and a
seed that starts with one of them has another code on either side.
-/

namespace AutoDiag.Proof

open Raise Security BitUtility
open RenaultRadio (digits4)

/-! ## `int`s that do not wrap -/

theorem intOfUshort_ofInt (x : UInt16) : CSharp.intOfUshort x = Int32.ofInt x.toNat := by
  have hlt := x.toNat_lt
  rw [← Int32.toInt_inj, intOfUshort_toInt, Int32.toInt_ofInt_of_le (by omega) (by omega)]

theorem shiftLeft_three (x : Int32) : x <<< 3 = x * 8 := by
  rw [← Int32.toBitVec_inj, Int32.toBitVec_shiftLeft, Int32.toBitVec_mul]
  exact BitVec.shiftLeft_eq_mul_twoPow x.toBitVec 3

section Small

variable {v : Int} (h : -100000 < v ∧ v < 100000)
include h

theorem toInt_small : (Int32.ofInt v).toInt = v :=
  Int32.toInt_ofInt_of_le (by omega) (by omega)

/-- Below the bounds of an `int` the remainder is that of the numbers. -/
theorem ofInt_rem (d : Nat) (hd : d < 1000) :
    Int32.ofInt v % Int32.ofInt d = Int32.ofInt (v.tmod d) := by
  have hmin : Int32.minValue.toInt = -2147483648 := rfl
  have hmax : Int32.maxValue.toInt = 2147483647 := rfl
  exact (Int32.ofInt_tmod (by omega) (by omega) (by omega) (by omega)).symm

theorem ofInt_div (d : Nat) (hd : d < 1000) :
    Int32.ofInt v / Int32.ofInt d = Int32.ofInt (v.tdiv d) := by
  have hmin : Int32.minValue.toInt = -2147483648 := rfl
  have hmax : Int32.maxValue.toInt = 2147483647 := rfl
  exact (Int32.ofInt_tdiv (by omega) (by omega) (by omega) (by omega)).symm

theorem ofInt_lt_zero : Int32.ofInt v < 0 ↔ v < 0 := by
  rw [Int32.lt_iff_toInt_lt, toInt_small h]
  rfl

theorem ofInt_eq_zero : Int32.ofInt v = 0 ↔ v = 0 := by
  rw [← Int32.toInt_inj, toInt_small h]
  rfl

end Small

/-! ## The number -/

open CSharp.RenaultRadio in
/-- `varf` exchanges the digits of the same remainder. -/
theorem varf_eq {v : Int} (h : -10000 < v ∧ v < 10000) :
    varf (Int32.ofInt v) = Int32.ofInt (swapDigits (7 * v % 100).toNat) := by
  have hseven : (Int32.ofInt v <<< 3) - Int32.ofInt v = Int32.ofInt (7 * v) := by
    rw [shiftLeft_three, show (8 : Int32) = Int32.ofInt 8 from rfl, ← Int32.ofInt_mul,
      ← Int32.ofInt_sub]
    congr 1
    omega
  have hrem : Int32.ofInt (7 * v) % 100 = Int32.ofInt ((7 * v).tmod 100) :=
    ofInt_rem (by omega) 100 (by decide)
  have hbound : -100 < (7 * v).tmod 100 ∧ (7 * v).tmod 100 < 100 :=
    ⟨Int.lt_tmod_of_pos _ (by decide), Int.tmod_lt_of_pos _ (by decide)⟩
  -- a remainder of C# has the sign of the dividend; a negative one is lifted by a hundred
  have hsum : (if Int32.ofInt ((7 * v).tmod 100) < 0 then Int32.ofInt ((7 * v).tmod 100) + 100
      else Int32.ofInt ((7 * v).tmod 100)) = Int32.ofInt (7 * v % 100) := by
    have hneg := ofInt_lt_zero (v := (7 * v).tmod 100) (by omega)
    have hemod : (7 * v).tmod 100 = 7 * v % 100 - _ := Int.tmod_eq_emod
    split
    · rename_i hlt
      have hlt := hneg.mp hlt
      rw [show (100 : Int32) = Int32.ofInt 100 from rfl, ← Int32.ofInt_add]
      congr 1
      split at hemod <;> omega
    · rename_i hge
      have hge := hneg.not.mp hge
      congr 1
      split at hemod <;> omega
  have hcall : Int32.ofInt (7 * v % 100) / 10 = Int32.ofInt (7 * v % 100 / 10) := by
    rw [show (10 : Int32) = Int32.ofInt (10 : Nat) from rfl, ofInt_div (by omega) 10 (by decide),
      Int.tdiv_eq_ediv_of_nonneg (by omega)]
    rfl
  have hlast : Int32.ofInt (7 * v % 100) % 10 = Int32.ofInt (7 * v % 100 % 10) := by
    rw [show (10 : Int32) = Int32.ofInt (10 : Nat) from rfl, ofInt_rem (by omega) 10 (by decide),
      Int.tmod_eq_emod_of_nonneg (by omega)]
    rfl
  unfold varf
  dsimp only
  rw [hseven, hrem, hsum, hcall, hlast, show (5 : Int32) = Int32.ofInt 5 from rfl,
    show (2 : Int32) = Int32.ofInt 2 from rfl, ← Int32.ofInt_mul, ← Int32.ofInt_mul,
    ← Int32.ofInt_add]
  congr 1
  unfold swapDigits
  omega

/-- The two digits in front. -/
theorem lead_eq {v : Int} (h : -10000 < v ∧ v < 10000) (hv : v ≠ 0) :
    CSharp.remInt 259 (Int32.ofInt v) = .ok (Int32.ofInt (259 % v.natAbs : Nat)) := by
  have hzero := (ofInt_eq_zero (v := v) (by omega)).not.mpr hv
  have hmin : Int32.minValue.toInt = -2147483648 := rfl
  have hmax : Int32.maxValue.toInt = 2147483647 := rfl
  rw [CSharp.remInt, if_neg hzero, if_neg fun h => absurd h.1 (by decide)]
  congr 1
  refine (Int32.ofInt_tmod (a := 259) (by omega) (by omega) (by omega) (by omega)).symm.trans ?_
  rw [← cMod_eq_tmod]
  rfl

/-! ## The digits -/

open CSharp.RenaultRadio in
theorem toStringD4_eq {n : Nat} (h : n < 10000) :
    toStringD4 (Int32.ofInt n) = (digits4 n).map Nat.digitChar := by
  have hint : (Int32.ofInt n).toInt = n := toInt_small (by omega)
  have hneg := (ofInt_lt_zero (v := (n : Int)) (by omega)).not.mpr (by omega)
  have hzero : Nat.digitChar 0 = '0' := rfl
  unfold toStringD4
  dsimp only
  rw [if_neg hneg, hint, Int.natAbs_natCast, digits4, List.map_append, List.map_replicate, hzero,
    List.length_map]

open CSharp.RenaultRadio in
theorem digitAt_eq {ds : List Nat} {i d : Nat} (hi : ds[i]? = some d) (hd : d < 10) :
    digitAt (ds.map Nat.digitChar) i = .ok (Int32.ofInt d) := by
  have hdigit : ∀ d < 10, Int32.ofNat (Nat.digitChar d).toNat - Int32.ofNat '0'.toNat
      = Int32.ofInt d := by decide
  have hitem : CSharp.item (ds.map Nat.digitChar) i = .ok (Nat.digitChar d) :=
    item_ofNat (by rw [List.getElem?_map, hi]; rfl)
  rw [digitAt, hitem, ok_bind, hdigit d hd]
  rfl

theorem byteOfInt_digits {hi lo : Nat} (hhi : hi < 10) (hlo : lo < 10) :
    CSharp.byteOfInt ((Int32.ofInt hi <<< 4) ||| Int32.ofInt lo) = toItem (hi <<< 4 ||| lo) := by
  have hall : ∀ hi : Nat, hi < 10 → ∀ lo : Nat, lo < 10 →
      CSharp.byteOfInt ((Int32.ofInt hi <<< 4) ||| Int32.ofInt lo) = toItem (hi <<< 4 ||| lo) := by
    decide
  exact hall hi hhi lo hlo

/-! ## The upper case -/

/-- A letter of the upper half of Latin-1 in lower case. -/
def Accented (c : UInt8) : Prop := 0xE0 ≤ c ∧ c ≤ 0xFE ∧ c ≠ 0xF7

instance : DecidablePred Accented := fun c => by unfold Accented; infer_instance

/-- `char.ToUpper` on Latin-1, less the two letters whose upper case lies outside of it. -/
def UpperLatin (toUpper : UInt16 → UInt16) : Prop :=
  ∀ c : UInt8, c ≠ 0xB5 → c ≠ 0xFF → (toUpper c.toUInt16).toNat =
    if (0x61 ≤ c ∧ c ≤ 0x7A) ∨ Accented c then c.toNat - 0x20 else c.toNat

/-- What the upper case of .NET takes off both numbers. -/
def accent (c : UInt8) : Int := if Accented c then 320 else 0

/-- `char.ToUpper` takes 32 off an accented letter as well. -/
theorem upper_accent {toUpper : UInt16 → UInt16} (hupper : UpperLatin toUpper) {c : UInt8}
    (hmicro : c ≠ 0xB5) (hydiaeresis : c ≠ 0xFF) :
    10 * ((toUpper c.toUInt16).toNat : Int) = 10 * upperCode c - accent c := by
  have hdisjoint : (0x61 ≤ c ∧ c ≤ 0x7A) → ¬ Accented c := by
    rintro ⟨_, hle⟩ ⟨hge, _, _⟩
    exact absurd (UInt8.le_trans hge hle) (by decide)
  have hge : (0x61 ≤ c ∧ c ≤ 0x7A) ∨ Accented c → 0x20 ≤ c.toNat := by
    have hlow : ∀ d : UInt8, 0x61 ≤ d → 0x20 ≤ d.toNat := fun d hd =>
      Nat.le_trans (by decide) (UInt8.le_iff_toNat_le.mp hd)
    rintro (⟨hc, _⟩ | ⟨hc, _, _⟩)
    · exact hlow c hc
    · exact hlow c (UInt8.le_trans (by decide) hc)
  rw [hupper c hmicro hydiaeresis, upperCode, accent]
  by_cases hascii : 0x61 ≤ c ∧ c ≤ 0x7A
  · have := hge (.inl hascii)
    rw [if_pos (.inl hascii), if_pos hascii, if_neg (hdisjoint hascii)]
    omega
  · by_cases haccent : Accented c
    · have := hge (.inr haccent)
      rw [if_pos (.inr haccent), if_neg hascii, if_pos haccent]
      omega
    · rw [if_neg (not_or.mpr ⟨hascii, haccent⟩), if_neg hascii, if_neg haccent]
      omega

/-- The numbers of the original are those of the port, less what the accent takes off. -/
theorem vars_original {toUpper : UInt16 → UInt16} (hupper : UpperLatin toUpper) {seed : Bytes}
    (hmicro : seed.getD 0 0 ≠ 0xB5) (hydiaeresis : seed.getD 0 0 ≠ 0xFF) :
    CSharp.RenaultRadio.vars toUpper (seed.getD 0 0).toUInt16 (seed.getD 1 0).toUInt16
        (seed.getD 2 0).toUInt16 (seed.getD 3 0).toUInt16
      = (Int32.ofInt (leadNumber seed - accent (seed.getD 0 0)),
        Int32.ofInt (tailNumber seed - accent (seed.getD 0 0))) := by
  have hcode := upper_accent hupper hmicro hydiaeresis
  have hfive : (5 : Int32) = Int32.ofInt 5 := rfl
  have htwo : (2 : Int32) = Int32.ofInt 2 := rfl
  have hlead : (698 : Int32) = Int32.ofInt 698 := rfl
  have htail : (528 : Int32) = Int32.ofInt 528 := rfl
  unfold CSharp.RenaultRadio.vars
  simp only [intOfUshort_ofInt, UInt8.toNat_toUInt16, hfive, htwo, hlead, htail,
    ← Int32.ofInt_mul, ← Int32.ofInt_add, ← Int32.ofInt_sub]
  refine Prod.ext (congrArg Int32.ofInt ?_) (congrArg Int32.ofInt ?_)
  · unfold leadNumber
    omega
  · unfold tailNumber leadNumber
    omega

/-! ## The two keys -/

theorem radioRange (seed : Bytes) :
    (-2000 < leadNumber seed ∧ leadNumber seed < 8000)
      ∧ -3000 < tailNumber seed ∧ tailNumber seed < 8000 := by
  have h0 := (seed.getD 0 0).toNat_lt
  have h1 := (seed.getD 1 0).toNat_lt
  have h2 := (seed.getD 2 0).toNat_lt
  have h3 := (seed.getD 3 0).toNat_lt
  have hcode : -32 ≤ upperCode (seed.getD 0 0) ∧ upperCode (seed.getD 0 0) < 256 := by
    unfold upperCode
    split <;> omega
  unfold tailNumber leadNumber
  omega

theorem accent_range (c : UInt8) : 0 ≤ accent c ∧ accent c ≤ 320 := by
  unfold accent
  split <;> decide

open CSharp CSharp.RenaultRadio in
/-- The four digits go into the first two bytes. -/
theorem storeDigits_eq {code : Nat} (h : code < 10000) (a b : UInt8) (rest : Bytes) :
    (do
      let s := toStringD4 (Int32.ofInt code)
      let outKey ← store (a :: b :: rest) 0
        (byteOfInt (((← digitAt s 0) <<< 4) ||| (← digitAt s 1)))
      let outKey ← store outKey 1 (byteOfInt (((← digitAt s 2) <<< 4) ||| (← digitAt s 3)))
      return some outKey : Except CSharp.Exception (Option Bytes))
      = .ok (some (digitBytes code ++ rest)) := by
  have hdigits := digits4_eq h
  have h0 : digitAt (toStringD4 (Int32.ofInt code)) 0 = .ok (Int32.ofInt (code / 1000 : Nat)) := by
    rw [toStringD4_eq h, hdigits]
    exact digitAt_eq rfl (by omega)
  have h1 : digitAt (toStringD4 (Int32.ofInt code)) 1
      = .ok (Int32.ofInt (code / 100 % 10 : Nat)) := by
    rw [toStringD4_eq h, hdigits]
    exact digitAt_eq rfl (by omega)
  have h2 : digitAt (toStringD4 (Int32.ofInt code)) 2
      = .ok (Int32.ofInt (code / 10 % 10 : Nat)) := by
    rw [toStringD4_eq h, hdigits]
    exact digitAt_eq rfl (by omega)
  have h3 : digitAt (toStringD4 (Int32.ofInt code)) 3 = .ok (Int32.ofInt (code % 10 : Nat)) := by
    rw [toStringD4_eq h, hdigits]
    exact digitAt_eq rfl (by omega)
  dsimp only
  rw [h0, h1, h2, h3]
  simp only [ok_bind]
  rw [byteOfInt_digits (by omega) (by omega), byteOfInt_digits (by omega) (by omega)]
  rfl

/-- The key of the original, by the numbers of the port. -/
theorem radio_original {toUpper : UInt16 → UInt16} (hupper : UpperLatin toUpper) {seed : Bytes}
    (hseed : 4 ≤ seed.length) (hmicro : seed.getD 0 0 ≠ 0xB5)
    (hydiaeresis : seed.getD 0 0 ≠ 0xFF) (n : Nat) (level : Int)
    (parameters : List Parameter) :
    CSharp.RenaultRadio.generateKey toUpper seed (List.replicate n 0) level parameters
      = .ok (if leadNumber seed - accent (seed.getD 0 0) = 0 ∨ n < 2 then none
        else some (digitBytes (radioCode (leadNumber seed - accent (seed.getD 0 0))
          (tailNumber seed - accent (seed.getD 0 0))) ++ List.replicate (n - 2) 0)) := by
  obtain ⟨hlead, htail⟩ := radioRange seed
  have haccent := accent_range (seed.getD 0 0)
  have hitem : ∀ i : Nat, i < seed.length → CSharp.item seed i = .ok (seed.getD i 0) := fun i hi =>
    item_ofNat (by rw [List.getD_eq_getElem?_getD, List.getElem?_eq_getElem hi]; rfl)
  have h0 : CSharp.item seed 0 = .ok (seed.getD 0 0) := hitem 0 (by omega)
  have h1 : CSharp.item seed 1 = .ok (seed.getD 1 0) := hitem 1 (by omega)
  have h2 : CSharp.item seed 2 = .ok (seed.getD 2 0) := hitem 2 (by omega)
  have h3 : CSharp.item seed 3 = .ok (seed.getD 3 0) := hitem 3 (by omega)
  have hvars := vars_original hupper hmicro hydiaeresis
  unfold CSharp.RenaultRadio.generateKey
  rw [if_neg (by omega), h0, ok_bind, h1, ok_bind, h2, ok_bind, h3, ok_bind]
  dsimp only
  rw [hvars]
  dsimp only
  obtain ⟨v1, hv1⟩ : ∃ v1, v1 = leadNumber seed - accent (seed.getD 0 0) := ⟨_, rfl⟩
  obtain ⟨v3, hv3⟩ : ∃ v3, v3 = tailNumber seed - accent (seed.getD 0 0) := ⟨_, rfl⟩
  rw [← hv1, ← hv3, List.length_replicate]
  -- the lead number divides, and at zero there is no key
  by_cases hzero : v1 = 0
  · rw [if_pos ((ofInt_eq_zero (by omega)).mpr hzero), if_pos (.inl hzero)]
    rfl
  · rw [if_neg ((ofInt_eq_zero (by omega)).not.mpr hzero), lead_eq (by omega) hzero, ok_bind]
    by_cases hshort : n < 2
    · rw [if_pos hshort, if_pos (.inr hshort)]
      rfl
    · obtain ⟨k, rfl⟩ : ∃ k, n = k + 2 := ⟨n - 2, by omega⟩
      have hcode : Int32.ofInt (259 % v1.natAbs : Nat) % 100 * 5 * 5 * 4
          + CSharp.RenaultRadio.varf (Int32.ofInt v3) = Int32.ofInt (radioCode v1 v3) := by
        have hmod := Nat.mod_le 259 v1.natAbs
        rw [varf_eq (by omega), show (100 : Int32) = Int32.ofInt (100 : Nat) from rfl,
          ofInt_rem (by omega) 100 (by decide), show (5 : Int32) = Int32.ofInt 5 from rfl,
          show (4 : Int32) = Int32.ofInt 4 from rfl, ← Int32.ofInt_mul, ← Int32.ofInt_mul,
          ← Int32.ofInt_mul, ← Int32.ofInt_add, radioCode,
          Int.tmod_eq_emod_of_nonneg (by omega)]
        congr 1
        omega
      rw [if_neg hshort, if_neg (by omega), hcode]
      exact storeDigits_eq (radioCode_lt v1 v3) 0 0 (List.replicate k 0)

/-- Four digits are read off the two bytes. -/
theorem digitBytes_inj {a b : Nat} (ha : a < 10000) (hb : b < 10000)
    (h : digitBytes a = digitBytes b) : a = b := by
  have hdigits := expandNibbles_digitBytes ha
  rw [h, expandNibbles_digitBytes hb] at hdigits
  simp only [List.cons.injEq, and_true] at hdigits
  omega

/-- An accented letter leaves the leading digits and changes the trailing ones. -/
theorem accented_differs {seed : Bytes} (h : Accented (seed.getD 0 0)) :
    leadNumber seed ≠ 0 ∧ leadNumber seed - 320 ≠ 0
      ∧ radioCode (leadNumber seed) (tailNumber seed)
        ≠ radioCode (leadNumber seed - 320) (tailNumber seed - 320) := by
  have hcode : 0xE0 ≤ upperCode (seed.getD 0 0) := by
    have hge := UInt8.le_iff_toNat_le.mp h.1
    have hascii : ¬ seed.getD 0 0 ≤ 0x7A := fun hle =>
      absurd (UInt8.le_trans h.1 hle) (by decide)
    rw [upperCode, if_neg fun hc => hascii hc.2]
    exact Int.ofNat_le.mpr hge
  have hlead : 1542 ≤ leadNumber seed := by
    unfold leadNumber
    omega
  refine ⟨by omega, by omega, ?_⟩
  -- 259 is below either number, and 7 * 320 is no multiple of 100
  unfold radioCode swapDigits
  rw [Nat.mod_eq_of_lt (by omega : 259 < (leadNumber seed).natAbs),
    Nat.mod_eq_of_lt (by omega : 259 < (leadNumber seed - 320).natAbs)]
  omega

/-- **The two keys are the same exactly where the seed starts with no accented letter**, or where
there is no room for a key. -/
theorem radioPort_iff {toUpper : UInt16 → UInt16} (hupper : UpperLatin toUpper) {seed : Bytes}
    (hseed : 4 ≤ seed.length) (hmicro : seed.getD 0 0 ≠ 0xB5)
    (hydiaeresis : seed.getD 0 0 ≠ 0xFF) (n : Nat) (level : Int)
    (parameters : List Parameter) :
    Related Eq (Security.RenaultRadio.generateKey seed n level parameters)
        (CSharp.RenaultRadio.generateKey toUpper seed (List.replicate n 0) level parameters)
      ↔ ¬ (Accented (seed.getD 0 0) ∧ 2 ≤ n) := by
  rw [generateKey_eq hseed (by omega), radio_original hupper hseed hmicro hydiaeresis,
    Int.toNat_natCast]
  have hroom : (n : Int) < 2 ↔ n < 2 := by omega
  constructor
  · rintro hsame ⟨haccent, hn⟩
    obtain ⟨hlead, hlead', hcode⟩ := accented_differs haccent
    rw [accent, if_pos haccent, if_neg (by omega), if_neg (by omega)] at hsame
    cases hsame with
    | ok heq =>
      have hbytes := List.append_cancel_right (Option.some.inj heq)
      exact hcode (digitBytes_inj (radioCode_lt _ _) (radioCode_lt _ _) hbytes)
  · intro h
    by_cases hshort : n < 2
    · rw [if_pos (.inr (hroom.mpr hshort)), if_pos (.inr hshort)]
      exact related_ok rfl
    · have haccent : ¬ Accented (seed.getD 0 0) := fun ha => h ⟨ha, by omega⟩
      rw [accent, if_neg haccent, Int.sub_zero, Int.sub_zero]
      simp only [hroom]
      exact related_ok rfl

/-- The upper case of Latin-1; those of the micro sign and of the y with a diaeresis lie outside. -/
def latinUpper (c : UInt16) : UInt16 :=
  if (0x61 ≤ c ∧ c ≤ 0x7A) ∨ (0xE0 ≤ c ∧ c ≤ 0xFE ∧ c ≠ 0xF7) then c - 0x20
  else if c = 0xB5 then 0x39C
  else if c = 0xFF then 0x178
  else c

theorem latinUpper_upperLatin : UpperLatin latinUpper := by
  unfold UpperLatin
  decide +kernel

/-- The letter of `Y020` is no accented one, so both sides give the same key. -/
theorem radioPort_iff_Y020 :
    Related Eq (Security.RenaultRadio.generateKey [0x59, 0x30, 0x32, 0x30] 2 1 [])
      (CSharp.RenaultRadio.generateKey latinUpper [0x59, 0x30, 0x32, 0x30] [0, 0] 1 []) := by
  refine (radioPort_iff latinUpper_upperLatin (by decide) (by decide) (by decide) 2 1 []).mpr ?_
  decide

/-- The seed starts with an `à`. -/
theorem radioPort_differs : UpperLatin latinUpper ∧
    ¬ Related Eq (Security.RenaultRadio.generateKey [0xE0, 0, 0, 0] 2 1 [])
      (CSharp.RenaultRadio.generateKey latinUpper [0xE0, 0, 0, 0] [0, 0] 1 []) := by
  refine ⟨latinUpper_upperLatin, ?_⟩
  rw [show Security.RenaultRadio.generateKey [0xE0, 0, 0, 0] 2 1 []
      = .ok (some [0x59, 0x89]) by decide,
    show CSharp.RenaultRadio.generateKey latinUpper [0xE0, 0, 0, 0] [0, 0] 1 []
      = .ok (some [0x59, 0x85]) by decide]
  intro h
  cases h with
  | ok heq => exact absurd heq (by decide)

end AutoDiag.Proof

import Mathlib
import AutoDiag.Lib.Weighted
import AutoDiag.Proof.VinInfo

/-!
# The check digit finds errors

The check digit writes a weighted sum modulo 11, which is a prime. The ninth
character has weight zero and is where the digit stands, every other weight and
every difference of neighbours is not zero modulo 11, and the values are below
11: so the sum sees a changed value and an exchange of neighbours.
-/

namespace AutoDiag.Proof

open Vin Raise Weighted
open Py (Unicode)

/-- The letters without `I`, `O`, `Q`, and the digits. -/
def codeAlphabet : List Char := vinAlphabet.filter (· ∉ illegalLetters)

/-- 17 characters that have a value. -/
structure Coded (vin : Str) : Prop where
  length : vin.length = vinLength
  chars : ∀ c ∈ vin, c ∈ codeAlphabet

theorem Coded.plain {vin : Str} (h : Coded vin) : Plain vin :=
  ⟨h.length, fun c hc => List.mem_of_mem_filter (h.chars c hc)⟩

/-- Another coded character in any place leaves a coded VIN. -/
theorem Coded.set {vin : Str} (h : Coded vin) (i : Nat) {c : Char} (hc : c ∈ codeAlphabet) :
    Coded (vin.set i c) := by
  refine ⟨(List.length_set ..).trans h.length, fun d hd => ?_⟩
  rcases List.mem_or_eq_of_mem_set hd with hd | rfl
  · exact h.chars d hd
  · exact hc

/-! ## The sum modulo 11 -/

instance prime_eleven : Fact (Nat.Prime 11) := ⟨Nat.prime_eleven⟩

/-- The value of a character modulo 11. -/
def residue (c : Char) : ZMod 11 := ((transliteration.lookup c).getD 0 : Nat)

def weights : List (ZMod 11) := checkWeights.map Nat.cast

/-- The weighted sum of a text. -/
def checkSum (vin : Str) : ZMod 11 := total weights (vin.map residue)

theorem codeAlphabet_all :
    codeAlphabet.all (fun c => (transliteration.lookup c).any (· < 11)) = true := by
  decide

/-- Every value is below eleven, so it is its own residue. -/
theorem codeAlphabet_values (c : Char) (hc : c ∈ codeAlphabet) :
    ∃ v < 11, transliteration.lookup c = some v := by
  obtain ⟨v, hv, hlt⟩ := (Option.any_eq_true _ _).mp (List.all_eq_true.mp codeAlphabet_all c hc)
  exact ⟨v, of_decide_eq_true hlt, hv⟩

/-- Characters of different values differ modulo 11 as well. -/
theorem residue_ne {a c : Char} (ha : a ∈ codeAlphabet) (hc : c ∈ codeAlphabet)
    (h : transliteration.lookup a ≠ transliteration.lookup c) : residue a ≠ residue c := by
  obtain ⟨x, hx, hax⟩ := codeAlphabet_values a ha
  obtain ⟨y, hy, hcy⟩ := codeAlphabet_values c hc
  rw [residue, residue, hax, hcy]
  intro heq
  have hmod := (ZMod.natCast_eq_natCast_iff' x y 11).mp heq
  rw [Nat.mod_eq_of_lt hx, Nat.mod_eq_of_lt hy] at hmod
  exact h (by rw [hax, hcy, hmod])

/-- The sum of the source, modulo 11, is the weighted sum of the residues. -/
theorem checkTotal_residue {s : Str} (hs : ∀ c ∈ s, c ∈ codeAlphabet) (ws : List Nat) :
    ∃ n, checkTotal (s.zip ws) = some n
      ∧ (n : ZMod 11) = total (ws.map Nat.cast) (s.map residue) := by
  induction s generalizing ws with
  | nil => exact ⟨0, rfl, by cases ws <;> simp [total]⟩
  | cons c s ih =>
    cases ws with
    | nil => exact ⟨0, rfl, by simp [total]⟩
    | cons w ws =>
      obtain ⟨n, hn, hsum⟩ := ih (fun d hd => hs d (List.mem_cons_of_mem _ hd)) ws
      obtain ⟨v, _, hv⟩ := codeAlphabet_values c (hs c (List.mem_cons_self ..))
      refine ⟨v * w + n, by simp [checkTotal, hv, hn], ?_⟩
      simp [total, residue, hv, hsum]

/-- The character that writes a remainder. -/
def checkChar (r : Nat) : Char := if r = 10 then 'X' else Hex.digit r

theorem checkChar_mem : ∀ r < 11, checkChar r ∈ codeAlphabet := by
  decide

/-- A remainder is read off its character. -/
theorem checkChar_inj : ∀ r < 11, ∀ r' < 11, checkChar r = checkChar r' → r = r' := by
  decide

/-- The digit that is computed writes the weighted sum. -/
theorem computeCheckDigit_eq (T : Unicode) {vin : Str} (h : Coded vin) :
    computeCheckDigit T vin = some [checkChar (checkSum vin).val] := by
  obtain ⟨n, hn, hsum⟩ := checkTotal_residue h.chars checkWeights
  rw [computeCheckDigit, if_neg (not_not.mpr h.length), upper_plain T h.plain.chars, hn]
  rw [show checkSum vin = n from hsum.symm, ZMod.val_natCast]
  show some _ = some _
  rw [checkChar]
  split <;> rfl

/-! ## Errors -/

/-- What the decoder says of the check digit. -/
def Reports (T : Unicode) (vin : Str) (valid : Bool) : Prop :=
  ∃ info, decodeVin T vin = .ok info ∧ info.validCheckDigit = valid

theorem reports_iff (T : Unicode) {vin : Str} (h : Coded vin) {c : Char} (hc : vin[8]? = some c)
    {valid : Bool} : Reports T vin valid ↔ decide (checkChar (checkSum vin).val = c) = valid := by
  have hget : vin.getD 8 ' ' = c := by rw [List.getD_eq_getElem?_getD, hc, Option.getD_some]
  have hvalid : (fullInfo T vin (origin vin)).validCheckDigit
      = decide (checkChar (checkSum vin).val = c) := by
    rw [fullInfo, computeCheckDigit_eq T h, hget]
    simp
  rw [Reports, decodeVin_plain T h.plain, ← hvalid]
  constructor
  · rintro ⟨info, hinfo, hsays⟩
    cases hinfo
    exact hsays
  · intro hsays
    exact ⟨_, rfl, hsays⟩

theorem weights_get : ∀ i < 17, weights[i]? = some (weights.getD i 0) := by
  decide

/-- None of the other weights is zero modulo 11. -/
theorem weights_ne : ∀ i < 17, i ≠ 8 → weights.getD i 0 ≠ 0 := by
  decide

/-- Neighbours have different weights, but for those of the ninth place. -/
theorem weights_step : ∀ i < 16, i ≠ 8 → i + 1 ≠ 8 →
    weights.getD i 0 ≠ weights.getD (i + 1) 0 := by
  decide

theorem map_residue_get {vin : Str} {i : Nat} {a : Char} (ha : vin[i]? = some a) :
    (vin.map residue)[i]? = some (residue a) := by
  rw [List.getElem?_map, ha, Option.map_some]

theorem lt_of_get {vin : Str} (h : Coded vin) {i : Nat} {a : Char} (ha : vin[i]? = some a) :
    i < 17 := by
  have hlen : vin.length = 17 := h.length
  obtain ⟨hi, _⟩ := List.getElem?_eq_some_iff.mp ha
  omega

theorem mem_of_get {vin : Str} (h : Coded vin) {i : Nat} {a : Char} (ha : vin[i]? = some a) :
    a ∈ codeAlphabet :=
  h.chars a (List.mem_of_getElem? ha)

/-- The ninth character does not count. -/
theorem checkSum_set_ninth {vin : Str} {a : Char} (ha : vin[8]? = some a) (c : Char) :
    checkSum (vin.set 8 c) = checkSum vin := by
  rw [checkSum, List.map_set]
  exact total_set_zero (by decide) (map_residue_get ha) _

/-- One residue changes, times a weight that is not zero. -/
theorem checkSum_set_ne {vin : Str} (h : Coded vin) {i : Nat} {a c : Char} (hi : i ≠ 8)
    (ha : vin[i]? = some a) (hc : c ∈ codeAlphabet)
    (hvalue : transliteration.lookup c ≠ transliteration.lookup a) :
    checkSum (vin.set i c) ≠ checkSum vin := by
  have hlt := lt_of_get h ha
  rw [checkSum, List.map_set]
  exact total_set_ne (weights_get i hlt) (weights_ne i hlt hi) (map_residue_get ha)
    (residue_ne hc (mem_of_get h ha) hvalue)

/-- The sum changes by the difference of the weights times that of the values. -/
theorem checkSum_swap_ne {vin : Str} (h : Coded vin) {i : Nat} {a c : Char} (hi : i ≠ 8)
    (hi' : i + 1 ≠ 8) (ha : vin[i]? = some a) (hc : vin[i + 1]? = some c)
    (hvalue : transliteration.lookup a ≠ transliteration.lookup c) :
    checkSum (swap vin i (i + 1) a c) ≠ checkSum vin := by
  have hlt := lt_of_get h hc
  rw [checkSum, swap, List.map_set, List.map_set]
  exact total_swap_ne (Nat.ne_of_lt i.lt_succ_self) (weights_get i (by omega)) (weights_get _ hlt)
    (weights_step i (by omega) hi hi') (map_residue_get ha) (map_residue_get hc)
    (residue_ne (mem_of_get h ha) (mem_of_get h hc) hvalue)

/-- With another sum and the same ninth character the digit is wrong. -/
theorem reports_false (T : Unicode) {vin vin' : Str} (h : Coded vin) (h' : Coded vin')
    (hninth : vin'[8]? = vin[8]?) (hsum : checkSum vin' ≠ checkSum vin)
    (hvalid : Reports T vin true) : Reports T vin' false := by
  have hlen : vin.length = 17 := h.length
  have hc : vin[8]? = some vin[8] := List.getElem?_eq_getElem (by omega)
  have hchar := of_decide_eq_true ((reports_iff T h hc).mp hvalid)
  rw [reports_iff T h' (hninth.trans hc), decide_eq_false_iff_not, ← hchar]
  intro hsame
  exact hsum (ZMod.val_injective 11 (checkChar_inj _ (ZMod.val_lt _) _ (ZMod.val_lt _) hsame))

/-- **Sixteen characters leave one valid check digit.** -/
theorem one_check_digit (T : Unicode) {vin : Str} (h : Coded vin) :
    ∃! c, c ∈ codeAlphabet ∧ Reports T (vin.set 8 c) true := by
  have hlen : vin.length = 17 := h.length
  have hold : vin[8]? = some vin[8] := List.getElem?_eq_getElem (by omega)
  have hiff : ∀ c ∈ codeAlphabet,
      (Reports T (vin.set 8 c) true ↔ checkChar (checkSum vin).val = c) := by
    intro c hc
    rw [reports_iff T (h.set 8 hc) (List.getElem?_set_self (by omega)), checkSum_set_ninth hold,
      decide_eq_true_iff]
  have hmem := checkChar_mem _ (ZMod.val_lt (checkSum vin))
  refine ⟨_, ⟨hmem, (hiff _ hmem).mpr rfl⟩, ?_⟩
  rintro c ⟨hc, hvalid⟩
  exact ((hiff c hc).mp hvalid).symm

/-- **Another ninth character is never valid too.** -/
theorem ninth_detected (T : Unicode) {vin : Str} (h : Coded vin) (hvalid : Reports T vin true)
    {a c : Char} (ha : vin[8]? = some a) (hc : c ∈ codeAlphabet) (hne : c ≠ a) :
    Reports T (vin.set 8 c) false := by
  have hlen : vin.length = 17 := h.length
  have hchar := of_decide_eq_true ((reports_iff T h ha).mp hvalid)
  rw [reports_iff T (h.set 8 hc) (List.getElem?_set_self (by omega)), checkSum_set_ninth ha,
    decide_eq_false_iff_not, hchar]
  exact hne.symm

/-- **Another value is detected.** -/
theorem value_detected (T : Unicode) {vin : Str} (h : Coded vin) (hvalid : Reports T vin true)
    {i : Nat} {a c : Char} (ha : vin[i]? = some a) (hc : c ∈ codeAlphabet)
    (hvalue : transliteration.lookup c ≠ transliteration.lookup a) :
    Reports T (vin.set i c) false := by
  by_cases hi : i = 8
  · subst hi
    refine ninth_detected T h hvalid ha hc ?_
    rintro rfl
    exact hvalue rfl
  · exact reports_false T h (h.set i hc) (List.getElem?_set_ne hi)
      (checkSum_set_ne h hi ha hc hvalue) hvalid

/-- **An exchange of neighbours is detected.** -/
theorem swap_detected (T : Unicode) {vin : Str} (h : Coded vin) (hvalid : Reports T vin true)
    {i : Nat} {a c : Char} (hi : i ≠ 8) (hi' : i + 1 ≠ 8) (ha : vin[i]? = some a)
    (hc : vin[i + 1]? = some c)
    (hvalue : transliteration.lookup a ≠ transliteration.lookup c) :
    Reports T (swap vin i (i + 1) a c) false := by
  refine reports_false T h ((h.set i (mem_of_get h hc)).set _ (mem_of_get h ha)) ?_
    (checkSum_swap_ne h hi hi' ha hc hvalue) hvalid
  rw [swap, List.getElem?_set_ne hi', List.getElem?_set_ne hi]

/--
**The check digit is determined by the other characters, and detects another
ninth character, another value and an exchange of neighbours.**
-/
theorem check_digit_detects (T : Unicode) {vin : Str} (h : Coded vin) :
    (∃! c, c ∈ codeAlphabet ∧ Reports T (vin.set 8 c) true)
    ∧ (Reports T vin true →
      (∀ i a c, vin[i]? = some a → c ∈ codeAlphabet →
        transliteration.lookup c ≠ transliteration.lookup a → Reports T (vin.set i c) false)
      ∧ (∀ a c, vin[8]? = some a → c ∈ codeAlphabet → c ≠ a → Reports T (vin.set 8 c) false)
      ∧ ∀ i a c, i ≠ 8 → i + 1 ≠ 8 → vin[i]? = some a → vin[i + 1]? = some c →
        transliteration.lookup a ≠ transliteration.lookup c →
        Reports T (swap vin i (i + 1) a c) false) :=
  ⟨one_check_digit T h, fun hvalid =>
    ⟨fun _ _ _ ha hc hvalue => value_detected T h hvalid ha hc hvalue,
      fun _ _ ha hc hne => ninth_detected T h hvalid ha hc hne,
      fun _ _ _ hi hi' ha hc hvalue => swap_detected T h hvalid hi hi' ha hc hvalue⟩⟩

theorem check_digit_detects_ones :
    Reports Unicode.superscripts ((List.replicate 17 '1').set 0 '2') false := by
  have h : Coded (List.replicate 17 '1') :=
    ⟨by decide, fun c hc => List.eq_of_mem_replicate hc ▸ by decide⟩
  have hvalid : Reports Unicode.superscripts (List.replicate 17 '1') true :=
    (reports_iff _ h rfl).mpr (by decide)
  exact ((check_digit_detects Unicode.superscripts h).2 hvalid).1 0 '1' '2' rfl (by decide)
    (by decide)

end AutoDiag.Proof

import Mathlib.Data.List.Dedup
import AutoDiag.Protocol.Vin

/-!
# What the VIN decoder makes of a text

On 17 characters every index is in range, so `decode_vin` raises exactly where
the look-up of the country does (`decodeFull_eq`), and that where a row of the
table is for the first character and the second is a digit without a value
(`decodeVin_returnsIff`). On the characters of a VIN the look-up is a search in
the table by the order of `_char_ord` (`lookup_ascii`).
-/

namespace AutoDiag.Proof

open Vin Raise
open Py (Unicode IsAscii)

/-- A digit to `isdigit` that `int` does not take. -/
def Unreadable (T : Unicode) (c : Char) : Prop := T.isDigit c = true ∧ T.int c = none

/-! ## Looking up a country -/

/-- What `int` raises. -/
def IsValueError (e : Exn) : Prop := ∃ msg, e = .valueError msg

/-- `int` raises exactly for a digit that it does not read. -/
theorem charOrd_returnsIff (T : Unicode) (c : Char) :
    ReturnsIff IsValueError (¬ Unreadable T c) (charOrd T c) := by
  unfold charOrd Unreadable
  split
  · rename_i hdigit
    split
    · rename_i d hd
      exact .ok fun h => Option.some_ne_none d (hd.symm.trans h.2)
    · rename_i hd
      exact .error (fun h => h ⟨hdigit, hd⟩) ⟨_, rfl⟩
  · rename_i hdigit
    exact .ok fun h => hdigit h.1

/-- The order of `_char_ord` on ASCII. -/
def codeKey (c : Char) : Nat := if c.isDigit then 91 + (c.toNat - 48) else c.toNat

/-- In ASCII every digit is read. -/
theorem charOrd_ascii (T : Unicode) {c : Char} (h : c.toNat < 128) :
    charOrd T c = .ok (codeKey c) := by
  rw [charOrd, codeKey, T.isDigit_ascii c h, T.int_ascii c h]
  split <;> rfl

/-- A prefix lies in a row, by an order of the second characters. -/
def within (key : Char → Nat) (c0 c1 : Char) (row : CountryRow) : Bool :=
  c0 == row.start.1 && row.start.1 == row.stop.1 && key row.start.2 ≤ key c1
    && key c1 ≤ key row.stop.2

/-- Every row is of one first character, with ends in ASCII. -/
theorem country2Char_rows : ∀ row ∈ country2Char, row.start.1 = row.stop.1 ∧
    row.start.2.toNat < 128 ∧ row.stop.2.toNat < 128 := by
  decide

/-- The first characters decide before the second ones are ordered. -/
theorem inRange_returnsIff (T : Unicode) (c0 c1 : Char) {row : CountryRow}
    (hrow : row ∈ country2Char) :
    ReturnsIff IsValueError (¬ (row.start.1 = c0 ∧ Unreadable T c1)) (inRange T c0 c1 row) := by
  obtain ⟨hone, hstart, hstop⟩ := country2Char_rows row hrow
  unfold inRange
  by_cases hc0 : c0 = row.start.1
  · rw [if_neg (by simp [hc0, hone]), charOrd_ascii T hstart, ok_bind, hc0]
    refine (returnsIff_bind_left (charOrd_returnsIff T c1) fun x _ => ?_).congr (by simp)
    rw [charOrd_ascii T hstop]
    split <;> exact returns_ok _
  · rw [if_pos (Or.inl hc0)]
    exact .ok fun h => hc0 h.1.symm

theorem findRow_returnsIff (T : Unicode) (c0 c1 : Char) {rows : List CountryRow}
    (hrows : ∀ row ∈ rows, row ∈ country2Char) :
    ReturnsIff IsValueError (¬ ((∃ row ∈ rows, row.start.1 = c0) ∧ Unreadable T c1))
      (findRow T c0 c1 rows) := by
  induction rows with
  | nil => exact .ok (by simp)
  | cons row rows ih =>
    have hrow := inRange_returnsIff T c0 c1 (hrows row (List.mem_cons_self ..))
    have ih := ih fun r hr => hrows r (List.mem_cons_of_mem _ hr)
    rw [findRow]
    generalize hb : inRange T c0 c1 row = x at hrow ⊢
    cases hrow with
    | error hfirst he =>
      -- the first row for the character is where the conversion is tried
      refine .error (fun hnot => hfirst fun h => hnot ⟨⟨row, ?_, h.1⟩, h.2⟩) he
      exact List.mem_cons_self ..
    | @ok b hfirst =>
      rw [ok_bind]
      cases b with
      | true =>
        refine .ok ?_
        rintro ⟨_, hbad⟩
        -- a row that the prefix lies in was compared with the character
        have hc0 : row.start.1 = c0 := by
          by_contra hne
          rw [inRange, if_pos (Or.inl (Ne.symm hne))] at hb
          cases hb
        exact hfirst ⟨hc0, hbad⟩
      | false =>
        rw [if_neg (by decide)]
        refine ih.congr (not_congr ⟨?_, ?_⟩)
        · rintro ⟨⟨r, hr, hc0⟩, hbad⟩
          exact ⟨⟨r, List.mem_cons_of_mem _ hr, hc0⟩, hbad⟩
        · rintro ⟨⟨r, hr, hc0⟩, hbad⟩
          rcases List.mem_cons.mp hr with rfl | hr
          · exact absurd ⟨hc0, hbad⟩ hfirst
          · exact ⟨⟨r, hr, hc0⟩, hbad⟩

/-- A prefix of a country of the table, with a second character that is unreadable. -/
def Trips (T : Unicode) : Str → Prop
  | c0 :: c1 :: _ :: _ => (∃ row ∈ country2Char, row.start.1 = c0) ∧ Unreadable T c1
  | _ => False

/-- The look-up raises only on its way through the rows. -/
theorem lookup_returnsIff (T : Unicode) (c0 c1 c2 : Char) (rest : Str) :
    ReturnsIff IsValueError (¬ Trips T (c0 :: c1 :: c2 :: rest))
      (lookupRegionCountry T [c0, c1, c2]) := by
  refine returnsIff_bind_left (findRow_returnsIff T c0 c1 fun _ hr => hr) fun row _ => ?_
  cases row <;> exact returns_ok _

theorem inRange_ascii (T : Unicode) (c0 : Char) {c1 : Char} (h : c1.toNat < 128)
    {row : CountryRow} (hrow : row ∈ country2Char) :
    inRange T c0 c1 row = .ok (within codeKey c0 c1 row) := by
  obtain ⟨hone, hstart, hstop⟩ := country2Char_rows row hrow
  unfold inRange within
  by_cases hc0 : c0 = row.start.1
  · rw [if_neg (by simp [hc0, hone]), charOrd_ascii T hstart, charOrd_ascii T h,
      charOrd_ascii T hstop]
    simp only [ok_bind]
    by_cases hlow : codeKey row.start.2 ≤ codeKey c1
    · rw [if_pos hlow]
      simp [hc0, hone, hlow]
    · rw [if_neg hlow]
      simp [hlow]
  · rw [if_pos (Or.inl hc0)]
    simp [hc0]

/-- On ASCII the look-up is a search. -/
theorem findRow_ascii (T : Unicode) (c0 : Char) {c1 : Char} (h : c1.toNat < 128)
    {rows : List CountryRow} (hrows : ∀ row ∈ rows, row ∈ country2Char) :
    findRow T c0 c1 rows = .ok (rows.find? (within codeKey c0 c1)) := by
  induction rows with
  | nil => rfl
  | cons row rows ih =>
    rw [findRow, inRange_ascii T c0 h (hrows row (List.mem_cons_self ..)), ok_bind, List.find?_cons,
      ih fun r hr => hrows r (List.mem_cons_of_mem _ hr)]
    cases within codeKey c0 c1 row <;> rfl

/-- The row that the decoder finds for a prefix. -/
def codeRow (c0 c1 : Char) : Option CountryRow := country2Char.find? (within codeKey c0 c1)

/-- The region and the country of a WMI in ASCII. -/
def origin : Str → Option String × Option String
  | c0 :: c1 :: _ => match codeRow c0 c1 with
    | some row => (some row.region, some row.country)
    | none => (region1Char.lookup c0, none)
  | _ => (none, none)

theorem lookup_ascii (T : Unicode) (c0 : Char) {c1 : Char} (h : c1.toNat < 128) (rest : Str) :
    lookupRegionCountry T (c0 :: c1 :: rest) = .ok (origin (c0 :: c1 :: rest)) := by
  rw [lookupRegionCountry, findRow_ascii T c0 h fun _ hr => hr, ok_bind, origin]
  unfold codeRow
  cases country2Char.find? (within codeKey c0 c1) <;> rfl

/-! ## Seventeen characters -/

/-- The model year, with every index in range. -/
def yearOf (T : Unicode) (n : Str) : Option Nat × String :=
  match yearIndex (T.upper [n.getD 9 ' ']) with
  | none => (none, "char 10 '" ++ String.singleton (n.getD 9 ' ') ++ "' is not a valid year code")
  | some idx =>
    if T.allDigits (T.upper [n.getD 6 ' ']) then
      (some (1980 + idx), "char 7 is a digit -> 1980-2009 cycle")
    else (some (2010 + idx), "char 7 is a letter -> 2010-2039 cycle")

/-- What is returned on 17 characters, once the origin is known. -/
def fullInfo (T : Unicode) (n : Str) (origin : Option String × Option String) : VinInfo :=
  let checkDigit := [n.getD 8 ' ']
  let wmi := Py.slice n 0 3
  let errors := characterErrors T n
    ++ (if wmiManufacturer.lookup wmi = none then
      ["WMI '" ++ String.ofList wmi ++ "' not in manufacturer table; origin inferred as "
        ++ (origin.2.or origin.1).getD "unknown origin"]
    else [])
    ++ checkErrors (computeCheckDigit T n) checkDigit
    ++ if (yearOf T n).1 = none then [(yearOf T n).2] else []
  { vin := n, wmi := some wmi, vds := some (Py.slice n 3 9), vis := some (Py.slice n 9 17),
    manufacturer := wmiManufacturer.lookup wmi, region := origin.1, country := origin.2,
    modelYear := (yearOf T n).1, modelYearSource := some (yearOf T n).2,
    plantCode := some [n.getD 10 ' '], serialNumber := some (Py.slice n 11 17),
    checkDigit := some checkDigit,
    validCheckDigit := computeCheckDigit T n = some checkDigit, errors := errors }

theorem charAt_of_lt {s : Str} {i : Nat} (h : i < s.length) :
    Py.charAt s i = .ok (s.getD i ' ') := by
  rw [Py.charAt, List.getElem?_eq_getElem h, List.getD_eq_getElem _ _ h]

/-- Of 17 characters the tenth and the seventh are there. -/
theorem resolveModelYear_eq (T : Unicode) {n : Str} (h : n.length = 17) :
    resolveModelYear T n = .ok (yearOf T n) := by
  rw [resolveModelYear, charAt_of_lt (by omega), ok_bind, charAt_of_lt (by omega), yearOf]
  cases yearIndex (T.upper [n.getD 9 ' ']) with
  | none => rfl
  | some idx =>
    simp only [ok_bind]
    split <;> rfl

/-- **On 17 characters only the look-up of the origin can raise.** -/
theorem decodeFull_eq (T : Unicode) {n : Str} (h : n.length = 17) :
    decodeFull T n = do
      let origin ← lookupRegionCountry T (Py.slice n 0 3)
      return fullInfo T n origin := by
  rw [decodeFull, charAt_of_lt (by omega), charAt_of_lt (by omega), resolveModelYear_eq T h]
  rfl

/-! ## Problems -/

/-- Nothing that `decode_vin` complains about. -/
structure Flawless (T : Unicode) (n : Str) : Prop where
  length : n.length = vinLength
  letters : ∀ c ∈ n, c ∉ illegalLetters
  alnum : ∀ c ∈ n, T.isAlnum c = true
  maker : wmiManufacturer.lookup (Py.slice n 0 3) ≠ none
  check : computeCheckDigit T n = some [n.getD 8 ' ']
  year : yearIndex (T.upper [n.getD 9 ' ']) ≠ none

theorem sortedSet_eq_nil {cs : List Char} : sortedSet cs = [] ↔ cs = [] := by
  rw [sortedSet, ← List.length_eq_zero_iff, List.length_mergeSort, List.length_eq_zero_iff,
    List.eq_nil_iff_forall_not_mem, List.eq_nil_iff_forall_not_mem]
  simp only [List.mem_dedup]

/-- Illegal letters and other characters have a line each. -/
theorem characterErrors_eq_nil (T : Unicode) {n : Str} : characterErrors T n = []
    ↔ (∀ c ∈ n, c ∉ illegalLetters) ∧ ∀ c ∈ n, T.isAlnum c = true := by
  unfold characterErrors
  simp only [List.append_eq_nil_iff, ite_eq_right_iff, ne_eq, sortedSet_eq_nil,
    List.filter_eq_nil_iff, List.cons_ne_nil, imp_false, not_not, decide_eq_true_eq,
    Bool.not_eq_true', Bool.not_eq_false]

theorem checkErrors_eq_nil {expected : Option Str} {checkDigit : Str} :
    checkErrors expected checkDigit = [] ↔ expected = some checkDigit := by
  unfold checkErrors
  cases expected with
  | none => simp
  | some e => simp

theorem yearOf_eq_none {T : Unicode} {n : Str} :
    (yearOf T n).1 = none ↔ yearIndex (T.upper [n.getD 9 ' ']) = none := by
  unfold yearOf
  cases yearIndex (T.upper [n.getD 9 ' ']) with
  | none => exact iff_of_true rfl rfl
  | some idx =>
    refine iff_of_false ?_ (Option.some_ne_none idx)
    dsimp only
    split <;> exact Option.some_ne_none _

theorem ite_singleton_eq_nil {α : Type} {P : Prop} [Decidable P] {x : α} :
    (if P then [x] else []) = [] ↔ ¬ P := by
  rw [ite_eq_right_iff]
  exact forall_congr' fun _ => iff_false_intro (List.cons_ne_nil _ _)

/-- On 17 characters every problem is in `errors`, and nothing else. -/
theorem fullInfo_errors (T : Unicode) {n : Str} (h : n.length = 17)
    (origin : Option String × Option String) :
    (fullInfo T n origin).errors = [] ↔ Flawless T n := by
  unfold fullInfo
  dsimp only
  rw [List.append_eq_nil_iff, List.append_eq_nil_iff, List.append_eq_nil_iff,
    characterErrors_eq_nil, ite_singleton_eq_nil, checkErrors_eq_nil, ite_singleton_eq_nil,
    yearOf_eq_none]
  exact ⟨fun ⟨⟨⟨⟨hl, ha⟩, hm⟩, hc⟩, hy⟩ => ⟨h, hl, ha, hm, hc, hy⟩,
    fun s => ⟨⟨⟨⟨s.letters, s.alnum⟩, s.maker⟩, s.check⟩, s.year⟩⟩

/-! ## Every text -/

/-- Without three characters there is no prefix to look up. -/
theorem decodeShort_returnsIff (T : Unicode) (n : Str) :
    ReturnsIff IsValueError (¬ Trips T n) (decodeShort T n) := by
  match n with
  | [] | [_] | [_, _] => exact .ok id
  | c0 :: c1 :: c2 :: rest =>
    rw [decodeShort, if_pos (by simp)]
    exact returnsIff_bind_left (lookup_returnsIff T c0 c1 c2 rest) fun _ _ => returns_ok _

theorem decodeShort_errors {T : Unicode} {n : Str} {info : VinInfo}
    (h : decodeShort T n = .ok info) : info.errors ≠ [] := by
  unfold decodeShort at h
  dsimp only at h
  split at h
  · obtain ⟨origin, _, h⟩ := bind_ok h
    cases h
    exact List.cons_ne_nil _ _
  · cases h
    exact List.cons_ne_nil _ _

theorem decodeFull_returnsIff (T : Unicode) {n : Str} (h : n.length = 17) :
    ReturnsIff IsValueError (¬ Trips T n) (decodeFull T n) := by
  rw [decodeFull_eq T h]
  match n, h with
  | c0 :: c1 :: c2 :: rest, _ =>
    exact returnsIff_bind_left (lookup_returnsIff T c0 c1 c2 rest) fun _ _ => returns_ok _

/-- A result says in `errors` exactly if there is a problem. -/
theorem decodeVin_errors {T : Unicode} {vin : Str} {info : VinInfo}
    (h : decodeVin T vin = .ok info) : info.errors = [] ↔ Flawless T (T.upper (T.strip vin)) := by
  unfold decodeVin at h
  dsimp only at h
  by_cases hlen : (T.upper (T.strip vin)).length = vinLength
  · rw [if_neg (not_not.mpr hlen), decodeFull_eq T hlen] at h
    obtain ⟨origin, _, h⟩ := bind_ok h
    cases h
    exact fullInfo_errors T hlen origin
  · rw [if_pos hlen] at h
    exact iff_of_false (decodeShort_errors h) fun s => hlen s.length

theorem decodeVin_returnsIff (T : Unicode) (vin : Str) :
    ReturnsIff IsValueError (¬ Trips T (T.upper (T.strip vin))) (decodeVin T vin) := by
  unfold decodeVin
  dsimp only
  split
  · exact decodeShort_returnsIff T _
  · rename_i hlen
    exact decodeFull_returnsIff T (not_not.mp hlen)

/--
**The decoder returns, with every problem in `errors`, except on a prefix of a
country whose second character is a digit that `int` does not take.**
-/
theorem decodeVin_total_iff (T : Unicode) (vin : Str) :
    (∃ info, decodeVin T vin = .ok info
        ∧ (info.errors = [] ↔ Flawless T (T.upper (T.strip vin))))
      ↔ ¬ Trips T (T.upper (T.strip vin)) := by
  rw [← (decodeVin_returnsIff T vin).iff]
  exact ⟨fun ⟨info, h, _⟩ => ⟨info, h⟩, fun ⟨info, h⟩ => ⟨info, h, decodeVin_errors h⟩⟩

/-- A superscript as second character. -/
theorem superscript_raises :
    ¬ ∀ (T : Unicode) (vin : Str), ∃ info, decodeVin T vin = .ok info := by
  intro h
  obtain ⟨info, hinfo⟩ := h Unicode.superscripts ['1', '²', '3']
  have hraises : (decodeVin Unicode.superscripts ['1', '²', '3']).isOk = false := by
    decide
  rw [hinfo] at hraises
  cases hraises

/-! ## A plain VIN -/

/-- `A` to `Z` and `0` to `9`. -/
def vinAlphabet : List Char :=
  ['A', 'B', 'C', 'D', 'E', 'F', 'G', 'H', 'I', 'J', 'K', 'L', 'M', 'N', 'O', 'P', 'Q', 'R', 'S',
    'T', 'U', 'V', 'W', 'X', 'Y', 'Z', '0', '1', '2', '3', '4', '5', '6', '7', '8', '9']

/-- 17 letters and digits. -/
structure Plain (vin : Str) : Prop where
  length : vin.length = vinLength
  chars : ∀ c ∈ vin, c ∈ vinAlphabet

instance (vin : Str) : Decidable (Plain vin) :=
  decidable_of_iff (vin.length = vinLength ∧ vin.all (· ∈ vinAlphabet) = true)
    ⟨fun h => ⟨h.1, fun c hc => of_decide_eq_true (List.all_eq_true.mp h.2 c hc)⟩,
      fun h => ⟨h.length, List.all_eq_true.mpr fun c hc => decide_eq_true (h.chars c hc)⟩⟩

theorem vinAlphabet_all : vinAlphabet.all
    (fun c => decide (c.toNat < 128 ∧ Py.isSpace c = false ∧ c.toUpper = c)) = true := by
  decide

theorem vinAlphabet_ascii (c : Char) (hc : c ∈ vinAlphabet) : c.toNat < 128 :=
  (of_decide_eq_true (List.all_eq_true.mp vinAlphabet_all c hc)).1

theorem vinAlphabet_kept (c : Char) (hc : c ∈ vinAlphabet) :
    Py.isSpace c = false ∧ c.toUpper = c :=
  (of_decide_eq_true (List.all_eq_true.mp vinAlphabet_all c hc)).2

theorem upper_plain (T : Unicode) {s : Str} (h : ∀ c ∈ s, c ∈ vinAlphabet) : T.upper s = s := by
  rw [T.upper_ascii s fun c hc => vinAlphabet_ascii c (h c hc), Py.upper]
  exact (List.map_congr_left fun c hc => (vinAlphabet_kept c (h c hc)).2).trans (List.map_id _)

theorem strip_plain (T : Unicode) {s : Str} (h : ∀ c ∈ s, c ∈ vinAlphabet) : T.strip s = s := by
  rw [T.strip_ascii s fun c hc => vinAlphabet_ascii c (h c hc)]
  exact Py.strip_eq_self fun c hc => (vinAlphabet_kept c (h c hc)).1

/-- **A plain VIN is decoded as it stands.** -/
theorem decodeVin_plain (T : Unicode) {vin : Str} (h : Plain vin) :
    decodeVin T vin = .ok (fullInfo T vin (origin vin)) := by
  rw [decodeVin, strip_plain T h.chars, upper_plain T h.chars, if_neg (not_not.mpr h.length),
    decodeFull_eq T h.length]
  match vin, h with
  | c0 :: c1 :: c2 :: rest, h =>
    have hc1 : c1.toNat < 128 := vinAlphabet_ascii c1 (h.chars c1 (by simp))
    rw [show Py.slice (c0 :: c1 :: c2 :: rest) 0 3 = [c0, c1, c2] from rfl,
      lookup_ascii T c0 hc1, ok_bind]
    rfl

end AutoDiag.Proof

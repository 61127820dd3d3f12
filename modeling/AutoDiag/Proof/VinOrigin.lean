import AutoDiag.Proof.VinInfo

/-!
# Where a VIN comes from

The rows of the table of countries are ranges of the second character. In the
order of ISO 3780 `0` is the last character and no row is empty; `_char_ord` has
it between `Z` and `1`. The prefixes that lose their row by that, and the rows
that lose all prefixes, are the ones of `lookup_honours_iff`.

Fourteen makers of the other table are in no row: their VINs have a maker, a
region and no country, and `errors` is empty if nothing else is wrong
(`missing_reported_iff`).
-/

namespace AutoDiag.Proof

open Vin Raise
open Py (Unicode IsAscii)

/-! ## The order of the second character -/

/-- The order of ISO 3780: the letters, `1` to `9`, then `0`. -/
def isoKey (c : Char) : Nat := if c = '0' then 101 else codeKey c

/-- The first row that a prefix lies in, in the order of ISO 3780. -/
def isoRow (c0 c1 : Char) : Option CountryRow := country2Char.find? (within isoKey c0 c1)

/-- In the order of ISO 3780 no row is empty. -/
theorem isoKey_rows : ∀ row ∈ country2Char, isoKey row.start.2 ≤ isoKey row.stop.2 := by
  decide

/-- `_char_ord` leaves a character in its row. -/
def keepsPlace (c1 : Char) (row : CountryRow) : Bool :=
  row.stop.2 ≠ '0' || !c1.isDigit || (c1 = '0' && !row.start.2.isDigit)

/-- A row that is not empty in the order of `_char_ord`. -/
def nonempty (row : CountryRow) : Bool := row.stop.2 ≠ '0' || !row.start.2.isDigit

/-- The rows of one first character. -/
def rowsOf (c0 : Char) : List CountryRow := country2Char.filter (·.start.1 == c0)

/-- Rows of another first character are never found. -/
theorem find_rowsOf (key : Char → Nat) (c0 c1 : Char) :
    (rowsOf c0).find? (within key c0 c1) = country2Char.find? (within key c0 c1) := by
  rw [rowsOf, List.find?_filter]
  congr 1
  funext row
  by_cases hc0 : row.start.1 = c0
  · rw [beq_iff_eq.mpr hc0]
    simp
  · simp [within, hc0, Ne.symm hc0]

/-- The row found is the right one, or tells the same. -/
def agrees (row found : CountryRow) : Bool :=
  found.start == row.start || (found.region == row.region && found.country == row.country)

/-- The two orders agree on a prefix, among some rows, where `keepsPlace` says so. -/
def checked (rows : List CountryRow) (c0 c1 : Char) : Bool :=
  (rows.find? (within isoKey c0 c1)).all fun row =>
    (rows.find? (within codeKey c0 c1)).any (agrees row) == keepsPlace c1 row

theorem vinAlphabet_checked :
    vinAlphabet.all (fun c0 => vinAlphabet.all fun c1 => checked (rowsOf c0) c0 c1) = true := by
  decide

theorem country2Char_starts : (country2Char.map (·.start)).Nodup := by
  decide

/-- No two rows start at the same prefix. -/
theorem row_eq {row found : CountryRow} (hrow : row ∈ country2Char) (hfound : found ∈ country2Char)
    (h : found.start = row.start) : found = row :=
  List.inj_on_of_nodup_map country2Char_starts hfound hrow h

theorem codeRow_mem {c0 c1 : Char} {row : CountryRow} (h : codeRow c0 c1 = some row) :
    row ∈ country2Char :=
  List.mem_of_find?_eq_some h

theorem isoRow_mem {c0 c1 : Char} {row : CountryRow} (h : isoRow c0 c1 = some row) :
    row ∈ country2Char :=
  List.mem_of_find?_eq_some h

/-- The decoder tells of a prefix what the table does, exactly if it keeps its place. -/
theorem origin_iff {c0 c1 : Char} (h0 : c0 ∈ vinAlphabet) (h1 : c1 ∈ vinAlphabet) (rest : Str)
    {row : CountryRow} (hrow : isoRow c0 c1 = some row) :
    origin (c0 :: c1 :: rest) = (some row.region, some row.country) ↔ keepsPlace c1 row = true := by
  -- both look-ups were compared once for all pairs of the alphabet
  have hchecked := List.all_eq_true.mp (List.all_eq_true.mp vinAlphabet_checked c0 h0) c1 h1
  rw [checked, find_rowsOf, find_rowsOf] at hchecked
  change (isoRow c0 c1).all (fun row => (codeRow c0 c1).any (agrees row) == keepsPlace c1 row)
    = true at hchecked
  rw [hrow, Option.all_some, beq_iff_eq] at hchecked
  rw [← hchecked, origin]
  cases hcode : codeRow c0 c1 with
  | none => simp
  | some found =>
    rw [Option.any_some, agrees]
    simp only [Prod.mk.injEq, Option.some.injEq, Bool.or_eq_true, beq_iff_eq, Bool.and_eq_true]
    constructor
    · exact Or.inr
    · rintro (hstart | htold)
      · rw [row_eq (isoRow_mem hrow) (codeRow_mem hcode) hstart]
        exact ⟨rfl, rfl⟩
      · exact htold

/-! ## Reachable rows -/

/-- Some VIN is looked up in the row. -/
def Reachable (T : Unicode) (row : CountryRow) : Prop :=
  ∃ (c0 c1 : Char) (rest : Str), Plain (c0 :: c1 :: rest)
    ∧ findRow T c0 c1 country2Char = .ok (some row)

/-- A row that is not empty is found by its first prefix. -/
theorem codeRow_start : ∀ row ∈ country2Char, row.start.1 ∈ vinAlphabet
    ∧ row.start.2 ∈ vinAlphabet ∧ (nonempty row = true →
      (codeRow row.start.1 row.start.2).any (·.start == row.start) = true) := by
  decide +kernel

theorem codeKey_rows : ∀ row ∈ country2Char, nonempty row = false →
    codeKey row.stop.2 < codeKey row.start.2 := by
  decide

theorem reachable_iff (T : Unicode) {row : CountryRow} (hrow : row ∈ country2Char) :
    Reachable T row ↔ nonempty row = true := by
  constructor
  · -- in an empty range there is no character to find
    rintro ⟨c0, c1, rest, hplain, hfound⟩
    by_contra hempty
    have hkeys := codeKey_rows row hrow (Bool.not_eq_true _ ▸ hempty)
    have hc1 : c1 ∈ vinAlphabet := hplain.chars c1 (by simp)
    rw [findRow_ascii T c0 (vinAlphabet_ascii c1 hc1) fun _ hr => hr] at hfound
    have hwithin := List.find?_some (Except.ok.inj hfound)
    simp only [within, Bool.and_eq_true, decide_eq_true_eq] at hwithin
    omega
  · -- and in another one the first is found, with any text after it
    intro hne
    obtain ⟨h0, h1, hstart⟩ := codeRow_start row hrow
    have hcode : codeRow row.start.1 row.start.2 = some row := by
      obtain ⟨found, hcode, hsame⟩ := (Option.any_eq_true _ _).mp (hstart hne)
      rw [hcode, row_eq hrow (codeRow_mem hcode) (beq_iff_eq.mp hsame)]
    refine ⟨row.start.1, row.start.2, List.replicate 15 'A', ⟨rfl, ?_⟩, ?_⟩
    · intro c hc
      rcases List.mem_cons.mp hc with rfl | hc
      · exact h0
      · rcases List.mem_cons.mp hc with rfl | hc
        · exact h1
        · rw [List.eq_of_mem_replicate hc]
          decide
    · rw [findRow_ascii T _ (vinAlphabet_ascii _ h1) fun _ hr => hr]
      exact congrArg Except.ok hcode

/--
**A prefix in a row of the table gets the row's region and country exactly if
`_char_ord` leaves it there; a row is reachable exactly if `_char_ord` leaves a
character there.**
-/
theorem lookup_honours_iff (T : Unicode) :
    (∀ (c0 c1 : Char) (rest : Str) (row : CountryRow), Plain (c0 :: c1 :: rest) →
      isoRow c0 c1 = some row →
      ((∃ info, decodeVin T (c0 :: c1 :: rest) = .ok info ∧ info.region = some row.region
          ∧ info.country = some row.country)
        ↔ keepsPlace c1 row = true))
    ∧ ∀ row ∈ country2Char, isoKey row.start.2 ≤ isoKey row.stop.2
      ∧ (Reachable T row ↔ nonempty row = true) := by
  constructor
  · intro c0 c1 rest row hplain hrow
    rw [← origin_iff (hplain.chars c0 (by simp)) (hplain.chars c1 (by simp)) rest hrow,
      decodeVin_plain T hplain]
    constructor
    · rintro ⟨info, hinfo, hregion, hcountry⟩
      cases hinfo
      exact Prod.ext hregion hcountry
    · intro h
      exact ⟨_, rfl, congrArg Prod.fst h, congrArg Prod.snd h⟩
  · intro row hrow
    exact ⟨isoKey_rows row hrow, reachable_iff T hrow⟩

/-- `X4` is Russia by the table. -/
def russian : Str := 'X' :: '4' :: 'X' :: List.replicate 14 'A'

theorem lookup_honours_iff_bavarian : ∃ info,
    decodeVin Unicode.superscripts ('W' :: 'B' :: List.replicate 15 'A') = .ok info
      ∧ info.region = some "Europe" ∧ info.country = some "Germany" :=
  ((lookup_honours_iff Unicode.superscripts).1 'W' 'B' (List.replicate 15 'A')
    ⟨('W', 'A'), ('W', '0'), "Europe", "Germany"⟩ (by decide) (by decide)).mpr (by decide)

theorem russian_lost : ¬ ∀ (T : Unicode) (c0 c1 : Char) (rest : Str) (row : CountryRow),
    Plain (c0 :: c1 :: rest) → isoRow c0 c1 = some row →
      ∃ info, decodeVin T (c0 :: c1 :: rest) = .ok info ∧ info.region = some row.region
        ∧ info.country = some row.country := by
  intro h
  have hplain : Plain russian := by decide
  obtain ⟨info, hinfo, -, hcountry⟩ := h Unicode.superscripts 'X' '4' _
    ⟨('X', '3'), ('X', '0'), "Europe", "Russia"⟩ hplain (by decide)
  cases (decodeVin_plain Unicode.superscripts hplain).symm.trans hinfo
  have hnone : (origin russian).2 = none := by decide
  exact Option.some_ne_none _ (hcountry.symm.trans hnone)

/-! ## Missing fields -/

/-- The makers of no country. -/
def silentMakers : List Str :=
  [
    ['1', '9', 'U'], ['1', '9', 'V'], ['1', '9', 'X'], ['5', '5', 'S'], ['7', 'G', '2'],
    ['7', 'J', 'R'], ['7', 'S', 'A'], ['L', '6', 'T'], ['W', '1', 'K'], ['W', '1', 'N'],
    ['W', '1', 'V'], ['X', '4', 'X'], ['Y', '6', 'D'], ['Z', '9', '4']
  ]

theorem wmiManufacturer_origin : ∀ maker ∈ wmiManufacturer, maker.1.all (·.toNat < 128) = true
    ∧ (origin maker.1).1 ≠ none ∧ ((origin maker.1).2 = none ↔ maker.1 ∈ silentMakers) := by
  decide +kernel

/-- One of the fields that may be `None` is. -/
def Missing (info : VinInfo) : Prop :=
  info.wmi = none ∨ info.vds = none ∨ info.vis = none ∨ info.manufacturer = none
    ∨ info.region = none ∨ info.country = none ∨ info.modelYear = none ∨ info.plantCode = none
    ∨ info.serialNumber = none ∨ info.checkDigit = none

/-- With every check passed, all that can be missing is the country. -/
theorem missing_flawless {T : Unicode} {n : Str} (h : Flawless T n)
    {place : Option String × Option String} (hregion : place.1 ≠ none) :
    Missing (fullInfo T n place) ↔ place.2 = none := by
  have hmaker : wmiManufacturer.lookup (Py.slice n 0 3) ≠ none := h.maker
  have hyear : (yearOf T n).1 ≠ none := mt yearOf_eq_none.mp h.year
  simp [Missing, fullInfo, hmaker, hyear, hregion]

/-- A flawless text is of a maker of the table, and its origin is the maker's. -/
theorem flawless_origin {T : Unicode} {n : Str} (h : Flawless T n) :
    lookupRegionCountry T (Py.slice n 0 3) = .ok (origin n) ∧ (origin n).1 ≠ none
      ∧ ((origin n).2 = none ↔ n.take 3 ∈ silentMakers) := by
  match n, h with
  | c0 :: c1 :: c2 :: rest, h =>
    obtain ⟨name, hname⟩ := Option.ne_none_iff_exists'.mp h.maker
    obtain ⟨before, after, htable, _⟩ := List.lookup_eq_some_iff.mp hname
    have hmem : ([c0, c1, c2], name) ∈ wmiManufacturer := by
      rw [htable]
      exact List.mem_append_right _ (List.mem_cons_self ..)
    obtain ⟨hascii, horigin⟩ := wmiManufacturer_origin _ hmem
    have hc1 : c1.toNat < 128 := of_decide_eq_true (List.all_eq_true.mp hascii c1 (by simp))
    exact ⟨lookup_ascii T c0 hc1 [c2], horigin⟩
  | [], h | [_], h | [_, _], h => exact absurd h.length (by simp [vinLength])

/--
**A missing field comes with an error except for a country, in an otherwise flawless
VIN of a maker that is in no row of the table of countries.**
-/
theorem missing_reported_iff (T : Unicode) (vin : Str) :
    (∀ info, decodeVin T vin = .ok info → Missing info →
      info.errors ≠ [] ∧ info.isValid = false)
      ↔ ¬ (Flawless T (T.upper (T.strip vin)) ∧ (T.upper (T.strip vin)).take 3 ∈ silentMakers) := by
  constructor
  · rintro h ⟨hflawless, hsilent⟩
    obtain ⟨hlookup, hregion, hcountry⟩ := flawless_origin hflawless
    have hinfo : decodeVin T vin = .ok (fullInfo T (T.upper (T.strip vin))
        (origin (T.upper (T.strip vin)))) := by
      rw [decodeVin, if_neg (not_not.mpr hflawless.length), decodeFull_eq T hflawless.length,
        hlookup]
      rfl
    exact (h _ hinfo ((missing_flawless hflawless hregion).mpr (hcountry.mpr hsilent))).1
      ((decodeVin_errors hinfo).mpr hflawless)
  · intro h info hinfo hmissing
    rw [VinInfo.isValid_eq_false, and_self]
    intro herrors
    have hflawless := (decodeVin_errors hinfo).mp herrors
    obtain ⟨hlookup, hregion, hcountry⟩ := flawless_origin hflawless
    rw [decodeVin, if_neg (not_not.mpr hflawless.length), decodeFull_eq T hflawless.length, hlookup]
      at hinfo
    cases hinfo
    exact h ⟨hflawless, hcountry.mp ((missing_flawless hflawless hregion).mp hmissing)⟩

/-- An Acura with a valid check digit. -/
def acura : Str :=
  ['1', '9', 'U', 'A', 'A', 'A', 'A', 'A', '9', 'A', 'A', 'A', 'A', 'A', 'A', 'A', 'A']

theorem acura_silent : ¬ ∀ (T : Unicode) (vin : Str) (info : VinInfo),
    decodeVin T vin = .ok info → Missing info → info.errors ≠ [] ∧ info.isValid = false := by
  intro h
  have hplain : Plain acura := by decide
  refine (h Unicode.superscripts acura _ (decodeVin_plain _ hplain) ?_).1 ?_
  · exact Or.inr (Or.inr (Or.inr (Or.inr (Or.inr (Or.inl (by decide))))))
  · decide +kernel

end AutoDiag.Proof

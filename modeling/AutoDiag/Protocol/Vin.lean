import AutoDiag.Protocol.VinTables
import AutoDiag.Python.Unicode
import AutoDiag.Lib.Raise

/-!
# The VIN decoder: `protocol/vin.py`

`decodeVin` reads a vehicle identification number of 17 characters: maker, place
of origin, check digit, model year. Whatever it cannot read is to be `none`, with
a text in `errors`.
-/

namespace AutoDiag.Vin

open Py (Unicode)

/-- `VIN_LENGTH`. -/
def vinLength : Nat := 17

/-- `ILLEGAL_LETTERS`. -/
def illegalLetters : List Char := ['I', 'O', 'Q']

/-- `_TRANSLITERATION`. -/
def transliteration : List (Char × Nat) :=
  [
    ('A', 1), ('B', 2), ('C', 3), ('D', 4), ('E', 5), ('F', 6), ('G', 7), ('H', 8),
    ('J', 1), ('K', 2), ('L', 3), ('M', 4), ('N', 5), ('P', 7), ('R', 9),
    ('S', 2), ('T', 3), ('U', 4), ('V', 5), ('W', 6), ('X', 7), ('Y', 8), ('Z', 9),
    ('0', 0), ('1', 1), ('2', 2), ('3', 3), ('4', 4), ('5', 5), ('6', 6), ('7', 7), ('8', 8),
    ('9', 9)
  ]

/-- `_CHECK_WEIGHTS`. -/
def checkWeights : List Nat := [8, 7, 6, 5, 4, 3, 2, 10, 0, 9, 8, 7, 6, 5, 4, 3, 2]

/-- `_YEAR_CODES`. -/
def yearCodes : List Char :=
  ['A', 'B', 'C', 'D', 'E', 'F', 'G', 'H', 'J', 'K', 'L', 'M', 'N', 'P', 'R', 'S', 'T', 'V', 'W',
    'X', 'Y', '1', '2', '3', '4', '5', '6', '7', '8', '9']

/-- `_YEAR_INDEX.get`, of a text. -/
def yearIndex : Str → Option Nat
  | [c] => yearCodes.idxOf? c
  | _ => none

/-! ## Region and country -/

/-- `_char_ord`; 90 is `ord("Z")`. -/
def charOrd (T : Unicode) (c : Char) : Except Exn Nat :=
  if T.isDigit c then
    match T.int c with
    | some d => .ok (90 + 1 + d)
    | none => .error (.valueError
        ("invalid literal for int() with base 10: '" ++ String.singleton c ++ "'"))
  else .ok c.toNat

/-- `_in_range`. -/
def inRange (T : Unicode) (c0 c1 : Char) (row : CountryRow) : Except Exn Bool :=
  if c0 ≠ row.start.1 ∨ row.start.1 ≠ row.stop.1 then .ok false
  else do
    let low ← charOrd T row.start.2
    let x ← charOrd T c1
    if low ≤ x then
      let high ← charOrd T row.stop.2
      return decide (x ≤ high)
    else return false

/-- The first row that a prefix lies in. -/
def findRow (T : Unicode) (c0 c1 : Char) : List CountryRow → Except Exn (Option CountryRow)
  | [] => .ok none
  | row :: rows => do
    if ← inRange T c0 c1 row then return some row
    else findRow T c0 c1 rows

/-- `_lookup_region_country`. -/
def lookupRegionCountry (T : Unicode) (wmi : Str) :
    Except Exn (Option String × Option String) :=
  match wmi with
  | [] => .ok (none, none)
  | [c0] => .ok (region1Char.lookup c0, none)
  | c0 :: c1 :: _ => do
    match ← findRow T c0 c1 country2Char with
    | some row => return (some row.region, some row.country)
    | none => return (region1Char.lookup c0, none)

/-! ## Check digit and model year -/

/-- The weighted sum of the characters' values, if all have one. -/
def checkTotal : List (Char × Nat) → Option Nat
  | [] => some 0
  | (ch, weight) :: rest => do
    let value ← transliteration.lookup ch
    let total ← checkTotal rest
    return value * weight + total

/-- `compute_check_digit`. -/
def computeCheckDigit (T : Unicode) (vin : Str) : Option Str :=
  if vin.length ≠ vinLength then none
  else do
    let total ← checkTotal ((T.upper vin).zip checkWeights)
    let remainder := total % 11
    return if remainder = 10 then ['X'] else [Hex.digit remainder]

/-- `_resolve_model_year`. -/
def resolveModelYear (T : Unicode) (vin : Str) : Except Exn (Option Nat × String) := do
  let c9 ← Py.charAt vin 9
  match yearIndex (T.upper [c9]) with
  | none => return (none, "char 10 '" ++ String.singleton c9 ++ "' is not a valid year code")
  | some idx =>
    let c6 ← Py.charAt vin 6
    if T.allDigits (T.upper [c6]) then
      return (some (1980 + idx), "char 7 is a digit -> 1980-2009 cycle")
    else return (some (2010 + idx), "char 7 is a letter -> 2010-2039 cycle")

/-! ## The decoder -/

/-- `VinInfo`. -/
structure VinInfo where
  vin : Str
  wmi : Option Str := none
  vds : Option Str := none
  vis : Option Str := none
  manufacturer : Option String := none
  region : Option String := none
  country : Option String := none
  modelYear : Option Nat := none
  modelYearSource : Option String := none
  plantCode : Option Str := none
  serialNumber : Option Str := none
  checkDigit : Option Str := none
  validCheckDigit : Bool := false
  errors : List String := []
  deriving DecidableEq, Repr

/-- `is_valid`. -/
def VinInfo.isValid (info : VinInfo) : Bool := info.errors = []

theorem VinInfo.isValid_eq_false {info : VinInfo} : info.isValid = false ↔ info.errors ≠ [] :=
  decide_eq_false_iff_not

/-- `sorted` of the set of some characters. -/
def sortedSet (cs : List Char) : List Char :=
  cs.dedup.mergeSort fun a b => decide (a.toNat ≤ b.toNat)

/-- `", ".join(cs)`. -/
def joinComma (cs : List Char) : String := ", ".intercalate (cs.map String.singleton)

/-- The complaints about single characters. -/
def characterErrors (T : Unicode) (normalized : Str) : List String :=
  let bad := sortedSet (normalized.filter (· ∈ illegalLetters))
  let nonAlnum := sortedSet (normalized.filter fun c => !T.isAlnum c)
  (if bad ≠ [] then ["VIN contains illegal letter(s) " ++ joinComma bad
      ++ " (I, O, Q are not allowed)"]
    else [])
    ++ if nonAlnum ≠ [] then ["VIN contains non-alphanumeric character(s): " ++ joinComma nonAlnum]
      else []

/-- The complaint about the check digit. -/
def checkErrors (expected : Option Str) (checkDigit : Str) : List String :=
  match expected with
  | none => ["check digit could not be computed (untranslatable character)"]
  | some expected =>
    if expected = checkDigit then []
    else ["check digit mismatch: char 9 is '" ++ String.ofList checkDigit ++ "', expected '"
      ++ String.ofList expected
      ++ "' (note: only North American VINs are required to carry a valid check digit)"]

/-- `decode_vin` on a text of another length: maker and origin, if it has three characters. -/
def decodeShort (T : Unicode) (normalized : Str) : Except Exn VinInfo :=
  let errors := ["VIN must be " ++ toString vinLength ++ " characters, got "
    ++ toString normalized.length]
  if 3 ≤ normalized.length then do
    let wmi := normalized.take 3
    let (region, country) ← lookupRegionCountry T wmi
    return { vin := normalized, wmi := some wmi, manufacturer := wmiManufacturer.lookup wmi,
             region := region, country := country, errors := errors }
  else return { vin := normalized, errors := errors }

/-- `decode_vin` on a text of 17 characters. -/
def decodeFull (T : Unicode) (normalized : Str) : Except Exn VinInfo := do
  let errors := characterErrors T normalized
  let wmi := Py.slice normalized 0 3
  let checkDigit := [← Py.charAt normalized 8]
  let plantCode := [← Py.charAt normalized 10]
  let manufacturer := wmiManufacturer.lookup wmi
  let (region, country) ← lookupRegionCountry T wmi
  let errors := errors ++ if manufacturer = none then
      ["WMI '" ++ String.ofList wmi ++ "' not in manufacturer table; origin inferred as "
        ++ (country.or region).getD "unknown origin"]
    else []
  let expected := computeCheckDigit T normalized
  let errors := errors ++ checkErrors expected checkDigit
  let (modelYear, source) ← resolveModelYear T normalized
  let errors := errors ++ if modelYear = none then [source] else []
  return { vin := normalized, wmi := some wmi, vds := some (Py.slice normalized 3 9),
           vis := some (Py.slice normalized 9 17), manufacturer := manufacturer, region := region,
           country := country, modelYear := modelYear, modelYearSource := some source,
           plantCode := some plantCode, serialNumber := some (Py.slice normalized 11 17),
           checkDigit := some checkDigit, validCheckDigit := expected = some checkDigit,
           errors := errors }

/-- `decode_vin`. -/
def decodeVin (T : Unicode) (vin : Str) : Except Exn VinInfo :=
  let normalized := T.upper (T.strip vin)
  if normalized.length ≠ vinLength then decodeShort T normalized else decodeFull T normalized

end AutoDiag.Vin

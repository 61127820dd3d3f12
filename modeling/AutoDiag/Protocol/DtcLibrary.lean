import AutoDiag.Lib.Dict
import AutoDiag.Python.Unicode

/-!
# The library of trouble codes

Generic definitions, and one table of definitions for each manufacturer. What the
dictionaries keep of the order of insertion plays no part: they are written sorted.
-/

namespace AutoDiag.DtcLibrary

open Py

structure Entry where
  definition : Str
  category : Str
  deriving DecidableEq, Repr

/-- A dictionary from codes to entries. -/
abbrev Codes := Dict Str Entry

/-- `_DB`. -/
structure Library where
  generic : Codes
  oem : Dict Str Codes

/-- Loose names of makes, and the tables they stand for. -/
def makeAliases : List (Str × Str) :=
  [("chevrolet", "GM Chevrolet"), ("chevy", "GM Chevrolet"), ("gm", "GM Chevrolet"),
    ("gmc", "GM Chevrolet"), ("cadillac", "GM Chevrolet"), ("buick", "GM Chevrolet"),
    ("ford", "Ford"), ("lincoln", "Ford"),
    ("stellantis", "Stellantis"), ("chrysler", "Stellantis"), ("dodge", "Stellantis"),
    ("jeep", "Stellantis"), ("ram", "Stellantis"), ("fiat", "Stellantis"),
    ("toyota", "Toyota Lexus"), ("lexus", "Toyota Lexus"),
    ("honda", "Honda Acura"), ("acura", "Honda Acura"),
    ("nissan", "Nissan Infiniti"), ("infiniti", "Nissan Infiniti"),
    ("hyundai", "Hyundai Kia"), ("kia", "Hyundai Kia"), ("genesis", "Hyundai Kia"),
    ("bmw", "BMW"), ("mini", "BMW"),
    ("mercedes", "Mercedes-Benz"), ("mercedes-benz", "Mercedes-Benz"), ("benz", "Mercedes-Benz"),
    ("vw", "VW Audi"), ("volkswagen", "VW Audi"), ("audi", "VW Audi")].map
      fun (name, sheet) => (name.toList, sheet.toList)

/-- What `lookup` returns. -/
structure Found where
  code : Str
  source : Str
  entry : Entry
  deriving DecidableEq, Repr

variable (T : Unicode) (L : LowerCase)

/-- `_resolve_make`. -/
def resolveMake (db : Library) : Option Str → Option Str
  | none => none
  | some make =>
    if make = [] then none
    else
      let key := T.strip make
      if key ∈ db.oem then some key else makeAliases.lookup (L.lower key)

/-- What the table of a manufacturer says of a code. -/
def ofSheet (db : Library) (code : Str) (sheet : Str) : Option Found :=
  if sheet = [] then none
  else (((db.oem.lookup sheet).getD ∅).lookup code).map fun entry => ⟨code, sheet, entry⟩

/-- `lookup`. -/
def lookup (db : Library) (code : Str) (make : Option Str) : Option Found :=
  let code := T.upper (T.strip code)
  ((resolveMake T L db make).bind (ofSheet db code)).or
    ((db.generic.lookup code).map fun entry => ⟨code, "generic".toList, entry⟩)

/-- `describe`. -/
def describe (db : Library) (code : Str) (make : Option Str) : Str :=
  match lookup T L db code make with
  | some found => found.entry.definition
  | none => "Manufacturer-specific or undocumented".toList

/-- `category`. -/
def category (db : Library) (code : Str) (make : Option Str) : Option Str :=
  (lookup T L db code make).map fun found => found.entry.category

/-- A trouble code and what the library says of it. -/
structure Described where
  code : Str
  definition : Str
  category : Option Str
  deriving DecidableEq, Repr

/-- `describe_dtcs`. -/
def describeDtcs (db : Library) (codes : List Str) (make : Option Str) : List Described :=
  codes.map fun code => ⟨code, describe T L db code make, category T L db code make⟩

end AutoDiag.DtcLibrary

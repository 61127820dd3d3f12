import AutoDiag.Protocol.DtcLibrary
import Mathlib.Data.Char
import Mathlib.Data.List.Lex

/-!
# The import of the workbook

`import_dtc_library.py`, from the cells of the sheets to the two tables it writes. The
numbers it prints and the `meta` part of the file, which nothing reads, are left out.
-/

namespace AutoDiag.ImportDtcLibrary

open Py DtcLibrary

/-- A cell that holds no text is true or false to Python; an empty one is false. -/
inductive Cell where
  | text (s : Str)
  | other (truthy : Bool)
  deriving DecidableEq, Repr

abbrev Row := List Cell

structure Sheet where
  title : Str
  rows : List Row

def genericSheets : List Str :=
  ["Generic Powertrain (P0xxx)", "Generic Body (B0xxx)", "Generic Chassis (C0xxx)",
    "Generic Network (U0xxx)"].map String.toList

variable (T : Unicode) (L : LowerCase)

/-- The test of `_find_header`. -/
def isHeader (row : Row) : Bool :=
  match (row[1]? : Option Cell) with
  | some (.text s) => L.lower (T.strip s) = "dtc code".toList
  | _ => false

/-- `_find_header`. -/
def findHeader (rows : List Row) : Option Nat := rows.findIdx? (isHeader T L)

/-- The code of a row, if it has one. -/
def rowCode (row : Row) : Option Str :=
  match (row[1]? : Option Cell) with
  | some (.text s) =>
    if s = [] then none
    else
      let code := T.upper (T.strip s)
      if code = [] then none else some code
  | _ => none

/-- The text of a cell; no text has no `strip`, an `AttributeError`. -/
def cellText (row : Row) (i : Nat) : Option Str :=
  match (row[i]? : Option Cell) with
  | some (.text s) => some (T.strip s)
  | some (.other true) => none
  | _ => some (T.strip [])

/-- One turn of the loop of `_read_sheet`. -/
def readRow (out : Codes) (row : Row) : Option Codes :=
  match rowCode T row with
  | none => some out
  | some code => do
    let definition ← cellText T row 2
    let category ← cellText T row 3
    return out.setdefault code ⟨definition, category⟩

/-- `_read_sheet`. -/
def readSheet (rows : List Row) : Option Codes :=
  match findHeader T L rows with
  | none => some ∅
  | some header => (rows.drop (header + 1)).foldlM (readRow T) ∅

/-- One turn of the loop of `main`. -/
def addSheet (db : Library) (ws : Sheet) : Option Library :=
  if ws.title = "Cover".toList then some db
  else do
    let codes ← readSheet T L ws.rows
    if codes.entries = [] then return db
    else if ws.title ∈ genericSheets then return { db with generic := codes ∪ db.generic }
    else return { db with oem := db.oem.insert ws.title codes }

/-- `main`: what it writes, and the library then reads; `none` is an `AttributeError`. -/
def main (worksheets : List Sheet) : Option Library := do
  let db ← worksheets.foldlM (addSheet T L) ⟨∅, ∅⟩
  return ⟨db.generic.sorted, db.oem.sorted.mapValues Dict.sorted⟩

end AutoDiag.ImportDtcLibrary

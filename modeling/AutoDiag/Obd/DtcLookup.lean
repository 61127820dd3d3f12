import AutoDiag.Python.Builtins

/-!
# The trouble codes of the graphical interface

`DTCHandler` talks to the adapter by itself and scrapes the codes out of its
text. The handler's `connect` turns headers on and spaces and linefeeds off.
-/

namespace AutoDiag.DtcLookup

open Py

/-- One row of the result. -/
structure Entry where
  code : Str
  desc : String
  deriving DecidableEq, Repr

/-- `_decode_dtc`; the index into the four prefixes is in range by its mask. -/
def decodeDtc : Str → Except Exn Str
  | [a, b, c, d] =>
    match Hex.value a with
    | none => .error (.valueError "invalid literal for int() with base 16")
    | some first =>
      let letter := match (first &&& 0xC) >>> 2 with
        | 0 => 'P'
        | 1 => 'C'
        | 2 => 'B'
        | _ => 'U'
      .ok [letter, Hex.digit (first &&& 0x3), b, c, d]
  | _ => .ok []

/-- The loop over the chunks of four digits; an incomplete last one is skipped. -/
def decodeChunks (db : Str → Option String) : Str → Except Exn (List Entry)
  | a :: b :: c :: d :: payload => do
    if [a, b, c, d] = ['0', '0', '0', '0'] then decodeChunks db payload
    else
      let code ← decodeDtc [a, b, c, d]
      let more ← decodeChunks db payload
      return if code = [] then more
        else ⟨code, (db code).getD "Manufacturer‑specific or undocumented"⟩ :: more
  | _ => .ok []

/-- The lines `_parse_dtcs` reads: carriage returns are dropped, not taken for line ends. -/
def textLines (response : Str) : List Str := (remove '\r' response).splitOn '\n'

/-- `_parse_dtcs`. -/
def parseDtcs (db : Str → Option String) (response : Str) : Except Exn (List Entry) :=
  let hexStream := ((textLines response).filter fun ln => ['4', '3'].isPrefixOf ln).flatMap
    fun ln => remove ' ' (strip ln)
  if hexStream = [] then .ok []
  else decodeChunks db (hexStream.drop 2) -- drop 43

end AutoDiag.DtcLookup

import AutoDiag.Lib.Pattern
import AutoDiag.Protocol.Pids

/-!
# Live data of the graphical interface: `obd/live_diagnostic_commands.py`

The interface searches the adapter's text for the answer to a PID, by one regular
expression for each parser. All but `parse_temp_response` name the PID in it.
-/

namespace AutoDiag.LiveData

open Pattern
open Pids (Value)
open Py (fdiv)

/-! ## The regular expressions -/

/-- A character of the expression that stands for itself. -/
def lit (c : Char) : Item Char := .one (· == c) false

/-- `\s?`. -/
def blank : Item Char := .maybe Py.isSpace

/-- `[0-9A-Fa-f]`, in a group or outside of one. -/
def hexDigit (keep : Bool) : Item Char := .one (fun c => (Hex.value c).isSome) keep

/-- `\s?([0-9A-Fa-f]{2})`, so many times. -/
def groups : Nat → List (Item Char)
  | 0 => []
  | n + 1 => blank :: hexDigit true :: hexDigit true :: groups n

/-- `41\s?`, two characters for the PID, and the groups. -/
def answer (first second : Item Char) (n : Nat) : List (Item Char) :=
  lit '4' :: lit '1' :: blank :: first :: second :: groups n

/-- `[0-5]`. -/
def zeroToFive : Item Char := .one (fun c => '0' ≤ c && c ≤ '5') false

/-! ## The parsers -/

/-- A parser: what it searches for, and the value it makes of the digits in the groups. -/
structure Parser where
  pattern : List (Item Char)
  value : Str → Except Exn Value

/-- What the parser returns. -/
def Parser.parse (p : Parser) (text : Str) : Except Exn (Option Value) :=
  match search p.pattern text with
  | none => return none
  | some digits => do
    let value ← p.value digits
    return some value

/-- `int(match.group(i + 1), 16)`, for groups of two digits. -/
def group (digits : Str) (i : Nat) : Except Exn Int :=
  Py.intOfHex (Py.slice digits (2 * i) (2 * i + 2))

/-- `(A * 256) + B`. -/
def wordOf (digits : Str) : Except Exn Int := do
  let a ← group digits 0
  let b ← group digits 1
  return a * 256 + b

def parseRpmResponse : Parser where
  pattern := answer (lit '0') (lit 'C') 2
  value digits := do
    let x ← wordOf digits
    return .int (x / 4)

def parseSpeedResponse : Parser where
  pattern := answer (lit '0') (lit 'D') 1
  value digits := do
    let a ← group digits 0
    return .int a

def parseTempResponse : Parser where
  pattern := answer zeroToFive (hexDigit false) 1
  value digits := do
    let a ← group digits 0
    return .int (a - 40)

def parseThrottleResponse : Parser where
  pattern := answer (lit '1') (lit '1') 1
  value digits := do
    let a ← group digits 0
    return .float (fdiv ((a * 100 : Int) : ℚ) 255)

def parseMafResponse : Parser where
  pattern := answer (lit '1') (lit '0') 2
  value digits := do
    let x ← wordOf digits
    return .float (fdiv x 100)

def parseFuelPressureResponse : Parser where
  pattern := answer (lit '0') (lit 'A') 1
  value digits := do
    let a ← group digits 0
    return .int (a * 3)

def parseO2SensorResponse : Parser where
  pattern := answer (lit '1') (lit '4') 1
  value digits := do
    let a ← group digits 0
    return .float (fdiv a 200)

/-- An entry of `pid_map`; the command is `01` and the PID in two digits. -/
structure Entry where
  label : String
  pid : UInt8
  parser : Parser

/-- `pid_map`. -/
def pidMap : List Entry :=
  [
    ⟨"RPM", 0x0C, parseRpmResponse⟩,
    ⟨"Vehicle Speed", 0x0D, parseSpeedResponse⟩,
    ⟨"Coolant Temp", 0x05, parseTempResponse⟩,
    ⟨"Throttle Position", 0x11, parseThrottleResponse⟩,
    ⟨"Intake Temp", 0x0F, parseTempResponse⟩,
    ⟨"MAF Rate", 0x10, parseMafResponse⟩,
    ⟨"Fuel Pressure", 0x0A, parseFuelPressureResponse⟩,
    ⟨"O2 Sensor (Bank 1)", 0x14, parseO2SensorResponse⟩
  ]

/-! ## Supported PIDs -/

/-- `4100([0-9A-Fa-f]{8})`. -/
def supportedPattern : List (Item Char) :=
  lit '4' :: lit '1' :: lit '0' :: lit '0' :: List.replicate 8 (hexDigit true)

/-- `s.zfill(width)`, of a text of digits. -/
def zfill (width : Nat) (s : Str) : Str := List.replicate (width - s.length) '0' ++ s

/-- `f"01{n:02X}"`, for a number of one byte. -/
def command (n : Nat) : Str := '0' :: '1' :: Hex.ofByte (UInt8.ofNat n)

/-- The PIDs of a bit field, from `01` on. -/
def commandsOf (bitfield : Str) : Except Exn (List Str) := do
  let n ← Py.intOfHex bitfield
  let binString := zfill 32 (Nat.toDigits 2 n.toNat) -- `bin(n)[2:]`
  return binString.zipIdx.filterMap fun (bit, i) =>
    if bit = '1' then some (command (i + 1)) else none

/-- `parse_supported_pids`. -/
def parseSupportedPids (text : Str) : Except Exn (List Str) :=
  match search supportedPattern text with
  | none => return []
  | some bitfield => commandsOf bitfield

end AutoDiag.LiveData

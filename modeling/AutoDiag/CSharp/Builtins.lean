import AutoDiag.Lib.Hex
import AutoDiag.Lib.Raise

/-!
# The C# the original algorithms are written in

Integers have the width of their C# type and wrap, since the original is compiled
unchecked. What C# throws is part of the value here, as it is for Python: an
index outside an array, a division by zero, a text that is no number.
-/

namespace AutoDiag.CSharp

inductive Exception where
  | indexOutOfRange
  | divideByZero
  | format
  | overflow
  | other (text : String)
  deriving DecidableEq, Repr

/-! ## Arrays -/

/-- `a[i]`. -/
def item {α : Type} (a : List α) (i : Int) : Except Exception α :=
  if i < 0 then .error .indexOutOfRange
  else match a[i.toNat]? with
    | some x => .ok x
    | none => .error .indexOutOfRange

/-- `a[i] = x`. -/
def store (a : List UInt8) (i : Nat) (x : UInt8) : Except Exception (List UInt8) :=
  if i < a.length then .ok (a.set i x) else .error .indexOutOfRange

/-! ## Conversions and division -/

/-- A `uint` where a `long` is needed. -/
def longOfUint (x : UInt32) : Int64 := x.toUInt64.toInt64

/-- `(uint) x` of a `long`. -/
def uintOfLong (x : Int64) : UInt32 := x.toUInt64.toUInt32

/-- A `byte` where an `int` is needed. -/
def intOfByte (x : UInt8) : Int32 := x.toUInt32.toInt32

/-- `(byte) x` of an `int`. -/
def byteOfInt (x : Int32) : UInt8 := x.toUInt32.toUInt8

/-- `(ushort) x` of an `int`. -/
def ushortOfInt (x : Int32) : UInt16 := x.toUInt32.toUInt16

/-- A `ushort` where an `int` is needed. -/
def intOfUshort (x : UInt16) : Int32 := x.toUInt32.toInt32

/-- `x % y` of two `int`s; the remainder has the sign of `x`. -/
def remInt (x y : Int32) : Except Exception Int32 :=
  if y = 0 then .error .divideByZero
  else if x = Int32.minValue ∧ y = -1 then .error .overflow
  else .ok (x % y)

/-- `x % y` of two `long`s. -/
def remLong (x y : Int64) : Except Exception Int64 :=
  if y = 0 then .error .divideByZero
  else if x = Int64.minValue ∧ y = -1 then .error .overflow
  else .ok (x % y)

/-- `x % y` of two `uint`s. -/
def remUint (x y : UInt32) : Except Exception UInt32 :=
  if y = 0 then .error .divideByZero else .ok (x % y)

/-! ## `Parse(s, NumberStyles.HexNumber)` -/

def isWhite (c : Char) : Bool := (9 ≤ c.toNat && c.toNat ≤ 13) || c == ' '

/-- White space around the digits is skipped, and so are null characters at the end. -/
def parseHex (s : List Char) : Except Exception Nat :=
  let s := s.reverse.dropWhile fun c => c.toNat == 0
  let s := (s.dropWhile isWhite).reverse.dropWhile isWhite
  if s.isEmpty || s.any fun c => (Hex.value c).isNone then .error .format
  else .ok (Hex.toNat s)

/-- `int.Parse`. -/
def parseInt (s : List Char) : Except Exception Int32 := do
  let n ← parseHex s
  if n < 2 ^ 32 then return Int32.ofNat n else .error .overflow

/-- `long.Parse`. -/
def parseLong (s : List Char) : Except Exception Int64 := do
  let n ← parseHex s
  if n < 2 ^ 64 then return Int64.ofNat n else .error .overflow

end AutoDiag.CSharp

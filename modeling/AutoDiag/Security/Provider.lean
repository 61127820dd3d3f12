import AutoDiag.Python.Builtins

/-!
# What a seed/key algorithm is given

A provider computes a key from a seed and the parameters its definition carries:
rows of key, type and hexadecimal text.
-/

namespace AutoDiag

namespace Security

/-- One entry of a definition's parameters. -/
structure Parameter where
  key : String
  value : String
  dataType : String
  deriving DecidableEq, Repr

/-- `_find`. -/
def find (parameters : List Parameter) (key dataType : String) : Except Exn String :=
  match parameters.find? fun row => row.key = key ∧ row.dataType = dataType with
  | some row => .ok row.value
  | none => .error (.parameterError
      ("Failed to fetch " ++ dataType ++ " parameter for key: " ++ key))

/-- `bytes_from_hex`. -/
def bytesFromHex (hexString : Str) : Except Exn Bytes :=
  match Py.fromHex (Py.remove ' ' hexString) with
  | none => .error (.valueError "non-hexadecimal number found in fromhex() arg")
  | some data => .ok data

/-- `param_int`: a hexadecimal text as a signed 32-bit integer. -/
def paramInt (parameters : List Parameter) (key : String) : Except Exn Int := do
  let text ← find parameters key "Int32"
  let x ← Py.intOfHex text.toList
  let v := x % 0x100000000
  return if 0x80000000 ≤ v then v - 0x100000000 else v

/-- `param_bytes`. -/
def paramBytes (parameters : List Parameter) (key : String) : Except Exn Bytes := do
  let text ← find parameters key "ByteArray"
  bytesFromHex text.toList

/-- `bytes_to_hex`. -/
def bytesToHex (data : Bytes) (spaced : Bool) : Str :=
  (if spaced then [' '] else []).intercalate (data.map Hex.ofByte)

/-- `param_byte`. -/
def paramByte (parameters : List Parameter) (key : String) : Except Exn Nat := do
  let text ← find parameters key "Byte"
  let x ← Py.intOfHex text.toList
  return (x % 0x100).toNat

/-- `param_long`: a hexadecimal text as a signed 64-bit integer. -/
def paramLong (parameters : List Parameter) (key : String) : Except Exn Int := do
  let text ← find parameters key "Int64"
  let x ← Py.intOfHex text.toList
  let v := x % 0x10000000000000000
  return if 0x8000000000000000 ≤ v then v - 0x10000000000000000 else v

namespace BitUtility

/-! ## Words and their bytes -/

/-- The largest 32-bit number, a mask. -/
def u32 : Nat := 0xFFFFFFFF

inductive Endian where
  | big
  | little
  deriving DecidableEq, Repr

/-- `bytes_to_int`: the slice may hold fewer than four bytes. -/
def bytesToInt (data : Bytes) (endian : Endian) (offset : Nat) : Nat :=
  let word := Py.slice data offset (offset + 4)
  match endian with
  | .big => Py.ofBytesBig word &&& u32
  | .little => Py.ofBytesLittle word &&& u32

/-- A parameter that is used as one word. -/
def paramWord (parameters : List Parameter) (key : String) (endian : Endian) :
    Except Exn Nat := do
  let data ← paramBytes parameters key
  return bytesToInt data endian 0

/-- `int_to_bytes`, of any integer. -/
def intToBytes (value : Int) (endian : Endian) : Bytes :=
  let big := Py.toBytesBig 4 (value % 0x100000000).toNat
  match endian with
  | .big => big
  | .little => big.reverse

/-- `x & 0xFF` as an item of a bytearray. -/
def toItem (x : Nat) : UInt8 := UInt8.ofNat x

/-! ## Bits and bytes of a number -/

/-- A shift count that is negative raises; any other is given back. -/
def shiftCount (n : Int) : Except Exn Nat :=
  if n < 0 then .error (.valueError "negative shift count") else .ok n.toNat

/-- `get_bit`. -/
def getBit (byte : Nat) (bitPosition : Int) : Except Exn Nat :=
  if 7 < bitPosition then
    .error (.valueError "Attempted to shift beyond 8 bits in a byte")
  else do
    let n ← shiftCount bitPosition
    return byte >>> n &&& 1

/-- `set_bit`. -/
def setBit (byte : Nat) (bitPosition : Int) : Except Exn Nat :=
  if 7 < bitPosition then
    .error (.valueError "Attempted to shift beyond 8 bits in a byte")
  else do
    let n ← shiftCount bitPosition
    return (byte ||| 1 <<< n) &&& 0xFF

/-- `get_byte`. -/
def getByte (value : Nat) (bytePosition : Int) : Except Exn Nat :=
  if 3 < bytePosition then
    .error (.valueError "Attempted to shift beyond 4 bytes in an uint")
  else do
    let n ← shiftCount (8 * bytePosition)
    return value >>> n &&& 0xFF

/-- `set_byte`; the complement is taken within 32 bits, beyond which the position cannot reach. -/
def setByte (value byteToSet : Nat) (bytePosition : Int) : Except Exn Nat :=
  if 3 < bytePosition then
    .error (.valueError "Attempted to shift beyond 4 bytes in an uint")
  else do
    let n ← shiftCount (8 * bytePosition)
    let value := value &&& (u32 ^^^ 0xFF <<< n)
    let value := value ||| (byteToSet &&& 0xFF) <<< n
    return value &&& u32

/-- `rotate_left`. -/
def rotateLeft (val count : Nat) : Nat :=
  let val := val &&& u32
  let count := count % 32
  if count = 0 then val else (val <<< count ||| val >>> (32 - count)) &&& u32

/-- `rotate_right`. -/
def rotateRight (val count : Nat) : Nat :=
  let val := val &&& u32
  let count := count % 32
  if count = 0 then val else (val >>> count ||| val <<< (32 - count)) &&& u32

/-- `count_ones`. -/
def countOnes (val : Nat) : Nat :=
  ((List.range 32).filter fun i => (val &&& u32).testBit i).length

/-- `expand_nibbles`. -/
def expandNibbles (data : Bytes) : Bytes :=
  data.flatMap fun (b : UInt8) => [b >>> 4 &&& 0xF, b &&& 0xF]

/-- `collapse_nibbles`. -/
def collapseNibbles : Bytes → Except Exn Bytes
  | [] => .ok []
  | [_] => .error (.valueError
      "Attempted to form a byte array from an odd-numbered set of nibbles.")
  | hi :: lo :: data => do
    let more ← collapseNibbles data
    return toItem (hi.toNat <<< 4 ||| lo.toNat) :: more

end BitUtility

/-- `SecurityProvider.generate_key`: seed, key length, access level, parameters. -/
abbrev Provider := Bytes → Int → Int → List Parameter → Except Exn (Option Bytes)

end Security

end AutoDiag

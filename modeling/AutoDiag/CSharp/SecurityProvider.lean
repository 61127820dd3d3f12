import AutoDiag.CSharp.Builtins
import AutoDiag.Security.Provider

/-!
# What an original algorithm is given

`SecurityProvider` and `BitUtility` as they stand in UnlockECU. A key is written
into an array the caller made, whose length is the key length asked for.
-/

namespace AutoDiag.CSharp

open Security (Parameter)
open Security.BitUtility (Endian)

/--
`GenerateKey`: seed, the array for the key, access level, parameters. It returns
the array it filled, or `none` for `false`.
-/
abbrev Provider := Bytes → Bytes → Int → List Parameter → Except Exception (Option Bytes)

namespace BitUtility

/-! ## Text and bytes -/

/-- `GetHexValue`: letters are taken to be upper-case. -/
def getHexValue (hex : Char) : Int32 :=
  let val := Int32.ofNat hex.toNat
  val - if val < 58 then 48 else 55

/-- The loop of `StringToByteArrayFastest`. -/
def pairs : Str → Bytes
  | hi :: lo :: hex => byteOfInt ((getHexValue hi <<< 4) + getHexValue lo) :: pairs hex
  | _ => []

/-- `BytesFromHex`. -/
def bytesFromHex (hexString : Str) : Except Exception Bytes :=
  let hex := Py.remove ' ' hexString
  if hex.length % 2 = 1 then
    .error (.other "The binary key cannot have an odd number of digits")
  else .ok (pairs hex)

/-- `BytesToInt`. -/
def bytesToInt (inBytes : Bytes) (endian : Endian) (offset : Int) : Except Exception UInt32 := do
  let b0 := (← item inBytes offset).toUInt32
  let b1 := (← item inBytes (offset + 1)).toUInt32
  let b2 := (← item inBytes (offset + 2)).toUInt32
  let b3 := (← item inBytes (offset + 3)).toUInt32
  match endian with
  | .big => return b0 <<< 24 ||| b1 <<< 16 ||| b2 <<< 8 ||| b3 <<< 0
  | .little => return b0 <<< 0 ||| b1 <<< 8 ||| b2 <<< 16 ||| b3 <<< 24

/-- `IntToBytes`. -/
def intToBytes (inInt : UInt32) (outBytes : Bytes) (endian : Endian) : Except Exception Bytes :=
  match endian with
  | .big => do
    let outBytes ← store outBytes 0 (inInt >>> 24).toUInt8
    let outBytes ← store outBytes 1 (inInt >>> 16).toUInt8
    let outBytes ← store outBytes 2 (inInt >>> 8).toUInt8
    store outBytes 3 (inInt >>> 0).toUInt8
  | .little => do
    let outBytes ← store outBytes 3 (inInt >>> 24).toUInt8
    let outBytes ← store outBytes 2 (inInt >>> 16).toUInt8
    let outBytes ← store outBytes 1 (inInt >>> 8).toUInt8
    store outBytes 0 (inInt >>> 0).toUInt8

/-- `ExpandByteArrayToNibbles`. -/
def expandNibbles (inputArray : Bytes) : Bytes :=
  inputArray.flatMap fun b =>
    [byteOfInt (intOfByte b >>> 4 &&& 0xF), byteOfInt (intOfByte b &&& 0xF)]

/-- The loop of `CollapseByteArrayFromNibbles`. -/
def joinNibbles : Bytes → Bytes
  | hi :: lo :: nibbles => byteOfInt (intOfByte hi <<< 4 ||| intOfByte lo) :: joinNibbles nibbles
  | _ => []

/-- `CollapseByteArrayFromNibbles`. -/
def collapseNibbles (inputArray : Bytes) : Except Exception Bytes :=
  if inputArray.length % 2 ≠ 0 then
    .error (.other "Attempted to form a byte array from an odd-numbered set of nibbles.")
  else .ok (joinNibbles inputArray)

/-! ## Bits of words -/

/-- `RotateLeft`. -/
def rotateLeft (val : UInt32) (count : Nat) : UInt32 :=
  (fun (val : UInt32) => if val &&& 0x80000000 > 0 then val <<< 1 ||| 1 else val <<< 1)^[count] val

/-- `RotateRight`. -/
def rotateRight (val : UInt32) (count : Nat) : UInt32 :=
  (fun (val : UInt32) => if val &&& 1 > 0 then val >>> 1 ||| 0x80000000 else val >>> 1)^[count] val

/-- One turn of the loop of `CountOnes`: the count, and what is left of the word. -/
def countTurn : Nat × UInt32 → Nat × UInt32
  | (result, val) =>
    if val > 0 then (if val &&& 1 > 0 then result + 1 else result, val >>> 1) else (result, val)

/-- `CountOnes`: after 32 turns nothing is left of the word. -/
def countOnes (val : UInt32) : Nat := (countTurn^[32] (0, val)).1

/-- `GetBit`: the count of a shift is taken modulo 32, so a negative position is one. -/
def getBit (inByte : UInt8) (bitPosition : Int32) : Except Exception UInt8 :=
  if bitPosition > 7 then .error (.other "Attempted to shift beyond 8 bits in a byte")
  else .ok (byteOfInt (intOfByte inByte >>> bitPosition &&& 1))

/-- `GetByte`. -/
def getByte (inInt : UInt32) (bytePosition : Int32) : Except Exception UInt8 :=
  if bytePosition > 3 then .error (.other "Attempted to shift beyond 4 bytes in an uint")
  else .ok (inInt >>> (8 * bytePosition).toUInt32).toUInt8

/-- `SetBit`. -/
def setBit (inByte : UInt8) (bitPosition : Int32) : Except Exception UInt8 :=
  if bitPosition > 7 then .error (.other "Attempted to shift beyond 8 bits in a byte")
  else .ok (inByte ||| byteOfInt (1 <<< bitPosition))

/-- `SetByte`. -/
def setByte (inInt : UInt32) (byteToSet : UInt8) (bytePosition : Int32) :
    Except Exception UInt32 :=
  if bytePosition > 3 then .error (.other "Attempted to shift beyond 4 bytes in an uint")
  else
    let bitPosition := 8 * bytePosition
    let inInt := inInt &&& ~~~(0xFF <<< bitPosition : Int32).toUInt32
    .ok (inInt ||| (intOfByte byteToSet <<< bitPosition).toUInt32)

end BitUtility

/-! ## Parameters -/

/-- The row with a key and a type, or the exception that names them. -/
def find (parameters : List Parameter) (key dataType name : String) :
    Except Exception String :=
  match parameters.find? fun row => row.key = key ∧ row.dataType = dataType with
  | some row => .ok row.value
  | none => .error (.other ("Failed to fetch " ++ name ++ " parameter for key: " ++ key))

def getParameterByte (parameters : List Parameter) (key : String) : Except Exception UInt8 := do
  let value ← find parameters key "Byte" "byte"
  return byteOfInt (← parseInt value.toList)

def getParameterInteger (parameters : List Parameter) (key : String) :
    Except Exception Int32 := do
  let value ← find parameters key "Int32" "Int32"
  parseInt value.toList

def getParameterLong (parameters : List Parameter) (key : String) : Except Exception Int64 := do
  let value ← find parameters key "Int64" "Int64"
  parseLong value.toList

def getParameterBytearray (parameters : List Parameter) (key : String) :
    Except Exception Bytes := do
  let value ← find parameters key "ByteArray" "ByteArray"
  BitUtility.bytesFromHex value.toList

end AutoDiag.CSharp

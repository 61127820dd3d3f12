import AutoDiag.CSharp.SecurityProvider
import Mathlib.Data.Nat.Digits.Defs

/-!
# The originals of the providers with keys of two bytes, and of those that copy

As `Security.ShortProviders`. C# computes with a `ushort` as an `int`, so a
product of two of them wraps at 32 bits and may come out negative. Which
characters have an upper case is for the culture to say, and is given.
-/

namespace AutoDiag.CSharp

/-! ## Copies of the seed -/

/-- `Array.Reverse` leaves the seed of the caller turned around, too. -/
def ArrayReverseAlgo.generateKey : Provider := fun inSeed outKey _accessLevel _parameters =>
  if inSeed.length ≠ outKey.length then .ok none
  else .ok (some inSeed.reverse)

/-- `for (i = 0; i < n; i++) outKey[i] = b(i)`. -/
def fill (b : Nat → Except Exception UInt8) (n : Nat) (outKey : Bytes) : Except Exception Bytes :=
  (List.range n).foldlM (fun outKey i => do store outKey i (← b i)) outKey

def XorAlgo.generateKey : Provider := fun inSeed outKey _accessLevel parameters => do
  let xorKey ← getParameterBytearray parameters "K"
  if inSeed.length ≠ outKey.length ∨ inSeed.length ≠ xorKey.length then return none
  else
    let b := fun (i : Nat) => do
      return byteOfInt (intOfByte (← item inSeed i) ^^^ intOfByte (← item xorKey i))
    return some (← fill b inSeed.length outKey)

/-- The seed, when seed and key have `n` bytes. -/
def copySeed (n : Nat) : Provider := fun inSeed outKey _accessLevel _parameters => do
  if inSeed.length ≠ n ∨ outKey.length ≠ n then return none
  else return some (← fill (fun i => item inSeed i) n outKey)

def OCM172.generateKey : Provider := copySeed 2

def RBTM.generateKey : Provider := copySeed 4

/-! ## Sixteen bits -/

/-- `lo | ((uint) hi) << 8`. -/
def joinUint (hi lo : UInt8) : UInt32 := lo.toUInt32 ||| hi.toUInt32 <<< 8

/-- The two lower bytes of a `uint`, the upper one first. -/
def lowBytes (key : UInt32) : UInt8 × UInt8 := ((key >>> 8).toUInt8, key.toUInt8)

/-- A key of two bytes. -/
def storeTwo (outKey : Bytes) (key : UInt8 × UInt8) : Except Exception (Option Bytes) := do
  let outKey ← store outKey 0 key.1
  let outKey ← store outKey 1 key.2
  return some outKey

/-- A provider for seeds and keys of two bytes that needs the seed only. -/
def ofTwoBytes (key : UInt8 → UInt8 → UInt8 × UInt8) : Provider :=
  fun inSeed outKey _accessLevel _parameters => do
    if inSeed.length ≠ 2 ∨ outKey.length ≠ 2 then return none
    else
      let s0 ← item inSeed 0
      let s1 ← item inSeed 1
      storeTwo outKey (key s0 s1)

def ESPSecurityAlgoLevel1.generateKey : Provider := ofTwoBytes fun s0 s1 =>
  let seedAsInt := joinUint s0 s1
  lowBytes ((4 : UInt32) * (seedAsInt >>> 3 ^^^ seedAsInt) ^^^ seedAsInt)

def HU45Algo.generateKey : Provider := ofTwoBytes fun s0 s1 =>
  let partialKey := ~~~(intOfByte s0 + intOfByte s1 <<< 8) - 0x307
  (byteOfInt (partialKey >>> 8), byteOfInt (~~~intOfByte s0 - 7))

def ESP9212Algo1.generateKey : Provider := ofTwoBytes fun s0 s1 =>
  let val := s0.toUInt32
  let val := val <<< 8
  let val := val ||| s1.toUInt32
  let snapshot := val
  let val := val / 4
  let val := val ^^^ snapshot
  let val := val * 8
  lowBytes (val ^^^ snapshot)

def VGSSecurityAlgo2Bytes.generateKey : Provider :=
  fun inSeed outKey _accessLevel parameters => do
    let cryptoKeyBytes ← getParameterBytearray parameters "K"
    let k1 ← item cryptoKeyBytes 1
    let k0 ← item cryptoKeyBytes 0
    let cryptoKey := joinUint k0 k1
    if inSeed.length ≠ 2 ∨ outKey.length ≠ 2 then return none
    else
      -- the second byte of the seed is the upper one
      let seed := joinUint (← item inSeed 1) (← item inSeed 0)
      storeTwo outKey (lowBytes (cryptoKey * (cryptoKey ^^^ seed)))

/-- One turn of the inner loop of `NetaAlgo1`. -/
def NetaAlgo1.turn (v : Int64) : Int64 :=
  if v &&& 0x8000 = 0 then v <<< 1 &&& 0xFFFF
  else if v &&& 0x80 = 0 then (v <<< 1 ^^^ 0x8025) &&& 0xFFFF
  else (v <<< 1 ^^^ 0x8408) &&& 0xFFFF

/-- `(byte) x` of a `long`. -/
def byteOfLong (x : Int64) : UInt8 := x.toUInt64.toUInt8

def NetaAlgo1.generateKey : Provider := fun inSeed outKey _accessLevel parameters => do
  if outKey.length ≠ 2 then return none
  else if inSeed.length ≠ 2 then return none
  else
    let pinBytes ← getParameterBytearray parameters "Pin"
    let p1 ← item pinBytes 1
    let p0 ← item pinBytes 0
    let v := inSeed.foldl
      (fun v challengeByte =>
        NetaAlgo1.turn^[8] (v ^^^ (intOfByte challengeByte <<< 8 : Int32).toInt64))
      (intOfByte p1 ||| intOfByte p0 <<< 8 : Int32).toInt64
    storeTwo outKey (byteOfLong (v >>> 8), byteOfLong v)

def PowertrainBoschContiSecurityAlgo1.generateKey : Provider :=
  fun inSeed outKey _accessLevel parameters => do
    let ubTable ← getParameterBytearray parameters "ubTable"
    let mask ← getParameterBytearray parameters "Mask"
    if inSeed.length ≠ 2 ∨ outKey.length ≠ 2 then return none
    else
      let inSeedAsInt := joinUint (← item inSeed 0) (← item inSeed 1)
      let maskAsInt := joinUint (← item mask 0) (← item mask 1)
      let swBit1 := (inSeedAsInt &&& maskAsInt &&& 0x4000) >>> 12
      let swBit2 := (inSeedAsInt &&& maskAsInt &&& 0x200) >>> 8
      let swBit3 := (inSeedAsInt &&& maskAsInt &&& 0x100) >>> 8
      let entry ← item ubTable (swBit1 ||| swBit2 ||| swBit3).toNat
      let keyAsInt := entry.toUInt32 * inSeedAsInt
      storeTwo outKey ((keyAsInt >>> 16 &&& 0xFF).toUInt8, (keyAsInt >>> 8 &&& 0xFF).toUInt8)

namespace PowertrainBoschContiSecurityAlgo2

/-- The variables of the loop. -/
structure State where
  shiftIndexA : UInt32
  shiftIndexB : UInt32
  activatedBits : UInt32

/-- One turn of the loop. -/
def turn (inSeedAsInt uwMascAsInt : UInt32) (s : State) : State :=
  let masked := s.shiftIndexA &&& uwMascAsInt > 0
  let active := s.shiftIndexA &&& inSeedAsInt > 0
  { shiftIndexA := s.shiftIndexA * 2
    shiftIndexB := if masked then s.shiftIndexB * 2 else s.shiftIndexB
    activatedBits :=
      if masked ∧ active then s.activatedBits ||| s.shiftIndexB else s.activatedBits }

/-- `activatedBits`, after the loop. -/
def activatedBits (inSeedAsInt uwMascAsInt : UInt32) : UInt32 :=
  ((turn inSeedAsInt uwMascAsInt)^[16] ⟨1, 1, 0⟩).activatedBits

def generateKey : Provider := fun inSeed outKey _accessLevel parameters => do
  let table ← getParameterBytearray parameters "Table"
  let uwMasc ← getParameterBytearray parameters "uwMasc"
  if inSeed.length ≠ 2 ∨ outKey.length ≠ 2 then return none
  else
    let inSeedAsInt := joinUint (← item inSeed 0) (← item inSeed 1)
    let uwMascAsInt := joinUint (← item uwMasc 0) (← item uwMasc 1)
    let entry ← item table (activatedBits inSeedAsInt uwMascAsInt).toNat
    let keyAsInt := (entry.toUInt32 * inSeedAsInt) >>> 8
    let keyAsInt := keyAsInt &&& 0xFFFF
    storeTwo outKey ((keyAsInt >>> 8 &&& 0xFF).toUInt8, (keyAsInt >>> 0 &&& 0xFF).toUInt8)

end PowertrainBoschContiSecurityAlgo2

/-- `(ushort) (hi << 8 | lo)`. -/
def joinBytes (hi lo : UInt8) : UInt16 := ushortOfInt (intOfByte hi <<< 8 ||| intOfByte lo)

def HondaAlgo1.generateKey : Provider := fun inSeed outKey _accessLevel parameters => do
  if inSeed.length ≠ 2 ∨ outKey.length ≠ 2 then return none
  else
    let k ← getParameterBytearray parameters "K"
    let k0Xor := joinBytes (← item k 0) (← item k 1)
    let k1Mul := joinBytes (← item k 2) (← item k 3)
    let k2Mod := joinBytes (← item k 4) (← item k 5)
    let seed := joinBytes (← item inSeed 0) (← item inSeed 1)
    let key := intOfUshort seed * intOfUshort k1Mul
    let key ← if k2Mod ≠ 0 then remInt key (intOfUshort k2Mod) else pure key
    let key := key ^^^ (intOfUshort k0Xor + intOfUshort seed)
    let key := key &&& 0xFFFF
    let outKey ← store outKey 0 (byteOfInt (key >>> 8))
    let outKey ← store outKey 1 (byteOfInt key)
    return some outKey

/-! ## The radio code -/

namespace RenaultRadio

/-- `var1` and `var3`; a `char` becomes an `int` as a `ushort` does. -/
def vars (toUpper : UInt16 → UInt16) (c0 c1 c2 c3 : UInt16) : Int32 × Int32 :=
  let var0 := intOfUshort (toUpper c0)
  let var1 := intOfUshort c1
  let var2 := intOfUshort c2
  let var3 := intOfUshort c3
  let var0 := var0 * 5
  let var1 := var0 * 2 + var1 - 698
  let var2 := (var2 * 5) * 2 + var1
  let var3 := var3 + var2 - 528
  (var1, var3)

/-- `varf`. -/
def varf (var3 : Int32) : Int32 :=
  let sum := ((var3 <<< 3) - var3) % 100
  let sum := if sum < 0 then sum + 100 else sum
  let call := sum / 10
  let remainder := (sum % 10) * 5
  remainder * 2 + call

/-- `ToString("D4")`: four digits or more, after the sign of a negative number. -/
def toStringD4 (x : Int32) : List Char :=
  let digits := (Nat.digits 10 x.toInt.natAbs).reverse.map Nat.digitChar
  let digits := List.replicate (4 - digits.length) '0' ++ digits
  if x < 0 then '-' :: digits else digits

/-- `s[i] - '0'`. -/
def digitAt (s : List Char) (i : Nat) : Except Exception Int32 := do
  return Int32.ofNat (← item s i).toNat - Int32.ofNat '0'.toNat

def generateKey (toUpper : UInt16 → UInt16) : Provider :=
  fun inSeed outKey _accessLevel _parameters => do
    if inSeed.length < 4 then return none
    else
      let c0 := (← item inSeed 0).toUInt16
      let c1 := (← item inSeed 1).toUInt16
      let c2 := (← item inSeed 2).toUInt16
      let c3 := (← item inSeed 3).toUInt16
      let (var1, var3) := vars toUpper c0 c1 c2 c3
      if var1 = 0 then return none
      else
        let eax := (← remInt 259 var1) % 100
        let eax := eax * 5
        let edx := eax * 5
        let eax := edx * 4 + varf var3
        if outKey.length < 2 then return none
        else
          let s := toStringD4 eax
          let outKey ← store outKey 0 (byteOfInt (((← digitAt s 0) <<< 4) ||| (← digitAt s 1)))
          let outKey ← store outKey 1 (byteOfInt (((← digitAt s 2) <<< 4) ||| (← digitAt s 3)))
          return some outKey

end RenaultRadio

end AutoDiag.CSharp

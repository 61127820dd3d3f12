import AutoDiag.CSharp.SecurityProvider
import AutoDiag.Lib.Buffer

/-!
# The original of VDOSecurityAlgo

Every `byte` is promoted to `int` by an operator and cut again by the assignment.
The arrays the algorithm makes have a fixed size and are read at fixed places; the
constant `kc` and the places that the level selects come from outside, and reading
there can throw.
-/

namespace AutoDiag.CSharp.VDOSecurityAlgo

open Buffer

/-- `new byte[]` of four bytes. -/
def fourBytes (b0 b1 b2 b3 : UInt8) : Vector UInt8 4 :=
  ofList 4 [b0, b1, b2, b3]

/-- `new byte[]` of eight bytes. -/
def eightBytes (b0 b1 b2 b3 b4 b5 b6 b7 : UInt8) : Vector UInt8 8 :=
  ofList 8 [b0, b1, b2, b3, b4, b5, b6, b7]

/-- `RotateBits(inBytes)`. -/
def rotateBits {n : Nat} (inBytes : Vector UInt8 n) : Vector UInt8 n :=
  let tempBuffer : Vector UInt8 n := loop n (fun i tempBuffer =>
    if intOfByte inBytes[i]! &&& 1 > 0 then put tempBuffer i 0x80 else tempBuffer)
      (Vector.replicate n 0)
  loop n (fun i inBytes =>
    let rIndex : Int := i - 1
    let rIndex : Int := if rIndex < 0 then n - 1 else rIndex
    let inBytes := put inBytes i (byteOfInt (intOfByte inBytes[i]! >>> 1))
    put inBytes i (byteOfInt (intOfByte inBytes[i]! ||| intOfByte tempBuffer[rIndex.toNat]!)))
    inBytes

/-- `RotateBits(inBytes, count)`. -/
def rotateBitsN {n : Nat} (inBytes : Vector UInt8 n) (count : Nat) : Vector UInt8 n :=
  rotateBits^[count] inBytes

/-! ## The key -/

/-- A count from the lowest bits of a byte. -/
def countOf (b : UInt8) (mask : Int32) : Nat := (intOfByte b &&& mask).toInt.toNat

/-- `Expand32BitKey`. -/
def expand32BitKey (key : Vector UInt8 4) : Vector UInt8 4 :=
  let keyA := fourBytes key[0]! key[1]! key[2]! key[3]!
  let keyP := fourBytes key[1]! key[3]! key[0]! key[2]!
  let keyP := rotateBitsN keyP (countOf key[2]! 0xF + 1)
  let keyA := rotateBitsN keyA (countOf key[3]! 0xF + 1)
  loop 4 (fun i key => put key i (byteOfInt (intOfByte keyA[i]! ^^^ intOfByte keyP[i]!))) key

/-- `ExpandFullKey`: the first eight bytes it leaves in `keyConstant`. -/
def expandFullKey (keyConstant : Bytes) : Except Exception (Vector UInt8 8) := do
  let keyLower := fourBytes (← item keyConstant 0) (← item keyConstant 1) (← item keyConstant 2)
    (← item keyConstant 3)
  let keyUpper := fourBytes (← item keyConstant 4) (← item keyConstant 5) (← item keyConstant 6)
    (← item keyConstant 7)
  return expand32BitKey keyLower ++ expand32BitKey keyUpper

/-- `ek[i] &= mask` and `ek[i] >>= count`. -/
def extract (ek : Vector UInt8 8) (i : Nat) (mask count : Int32) : Vector UInt8 8 :=
  let ek := put ek i (byteOfInt (intOfByte ek[i]! &&& mask))
  put ek i (byteOfInt (intOfByte ek[i]! >>> count))

/-- `xorIntermediate ^= b`. -/
def xorByte (xorIntermediate b : UInt8) : UInt8 :=
  byteOfInt (intOfByte xorIntermediate ^^^ intOfByte b)

/-- One turn of the loop in `ExpandAndTransformKey`. -/
def morph (mKey : Vector UInt8 8) : Vector UInt8 8 :=
  let ek := mKey
  let xorIntermediate : UInt8 := 0
  let ek := extract ek 0 8 3
  let xorIntermediate := xorByte xorIntermediate ek[0]!
  let ek := extract ek 1 1 0
  let xorIntermediate := xorByte xorIntermediate ek[1]!
  let ek := extract ek 2 2 1
  let xorIntermediate := xorByte xorIntermediate ek[2]!
  let ek := extract ek 3 0x80 7
  let xorIntermediate := xorByte xorIntermediate ek[3]!
  let ek := extract ek 4 0x20 5
  let xorIntermediate := xorByte xorIntermediate ek[4]!
  let ek := extract ek 5 4 2
  let xorIntermediate := xorByte xorIntermediate ek[5]!
  let ek := extract ek 6 0x40 6
  let xorIntermediate := xorByte xorIntermediate ek[6]!
  let snapshot := ek[7]!
  let ek := extract ek 7 0x10 4
  let xorIntermediate := xorByte xorIntermediate ek[7]!
  let finalByteTransformed := byteOfInt (intOfByte xorIntermediate <<< 7)
  let finalByteTransformed := byteOfInt (intOfByte finalByteTransformed
    ||| intOfByte (byteOfInt (intOfByte snapshot &&& 0x7F)))
  rotateBits (put mKey 7 finalByteTransformed)

/-- `ExpandAndTransformKey`. -/
def expandAndTransformKey (accessLevel : Int) (transposedSeed : Vector UInt8 8) (kc : Bytes) :
    Except Exception (Vector UInt8 8) := do
  let morphCount := countOf (← item transposedSeed.toList accessLevel) 7 + 2
  let mKey ← expandFullKey kc
  return morph^[morphCount] mKey

/-! ## The cipher -/

/-- `tp[i] ^= tp[4 + i]`, for the four lower bytes. -/
def xorUpper (tp : Vector UInt8 8) : Vector UInt8 8 :=
  loop 4 (fun i tp => put tp i (byteOfInt (intOfByte tp[i]! ^^^ intOfByte tp[4 + i]!))) tp

/-- The rotation of the four lower bytes, through an array of their own. -/
def rotateLower (tp : Vector UInt8 8) (rotateCount : Nat) : Vector UInt8 8 :=
  let lowerRotateBytes := rotateBits^[rotateCount] (fourBytes tp[0]! tp[1]! tp[2]! tp[3]!)
  let tp := put tp 0 lowerRotateBytes[0]!
  let tp := put tp 1 lowerRotateBytes[1]!
  let tp := put tp 2 lowerRotateBytes[2]!
  put tp 3 lowerRotateBytes[3]!

/-- Four bytes as a `uint`, the lowest first; each is shifted as an `int`. -/
def sumOf (b0 b1 b2 b3 : UInt8) : UInt32 :=
  let sum := b0.toUInt32
  let sum := sum ||| (intOfByte b1 <<< 8).toUInt32
  let sum := sum ||| (intOfByte b2 <<< 16).toUInt32
  sum ||| (intOfByte b3 <<< 24).toUInt32

/-- The sum with the four bytes of `ik` from `offset` on. -/
def addKey (ik : Vector UInt8 8) (offset : Nat) (tp : Vector UInt8 8) : Vector UInt8 8 :=
  let tpSum := sumOf tp[0]! tp[1]! tp[2]! tp[3]!
  let ikSum := sumOf ik[offset]! ik[offset + 1]! ik[offset + 2]! ik[offset + 3]!
  let tpSum := tpSum + ikSum
  let tp := put tp 0 (tpSum >>> 0 &&& 0xFF).toUInt8
  let tp := put tp 1 (tpSum >>> 8 &&& 0xFF).toUInt8
  let tp := put tp 2 (tpSum >>> 16 &&& 0xFF).toUInt8
  put tp 3 (tpSum >>> 24 &&& 0xFF).toUInt8

/-- The old lower bytes become the upper ones. -/
def moveLower (tp tpc : Vector UInt8 8) : Vector UInt8 8 :=
  let tp := put tp 4 tpc[0]!
  let tp := put tp 5 tpc[1]!
  let tp := put tp 6 tpc[2]!
  put tp 7 tpc[3]!

/-- Half a cipher iteration: the new `tp`, of which the new `tpc` is a copy. -/
def halfIteration (ik : Vector UInt8 8) (tpcScramblerLevel : Int) (offset : Nat)
    (tp tpc : Vector UInt8 8) : Except Exception (Vector UInt8 8) := do
  let tp := xorUpper tp
  let rotateCount := countOf (← item tpc.toList tpcScramblerLevel) 3 + 1
  return moveLower (addKey ik offset (rotateLower tp rotateCount)) tpc

/-- One turn of the loop over `cipherIter`. -/
def cipherIteration (ik : Vector UInt8 8) (tpcScramblerLevel : Int) (tp tpc : Vector UInt8 8) :
    Except Exception (Vector UInt8 8) := do
  let tp ← halfIteration ik tpcScramblerLevel 0 tp tpc
  halfIteration ik tpcScramblerLevel 4 tp tp

/-- `GenerateKey`, with the `tpcScramblerLevel` its default gives. -/
def generateKeyAt (keyExpansionLevel : Int) (seed : Vector UInt8 8) (kc : Bytes) :
    Except Exception (Vector UInt8 8) := do
  let tpcScramblerLevel := keyExpansionLevel
  let tp := eightBytes seed[7]! seed[4]! seed[3]! seed[6]! seed[5]! seed[1]! seed[0]! seed[2]!
  let ik ← expandAndTransformKey keyExpansionLevel tp kc
  let tpc := eightBytes tp[0]! tp[1]! tp[2]! tp[3]! tp[4]! tp[5]! tp[6]! tp[7]!
  let tp ← cipherIteration ik tpcScramblerLevel tp tpc
  let tpc ← cipherIteration ik tpcScramblerLevel tp tp
  return eightBytes tpc[3]! tpc[5]! tpc[6]! tpc[1]! tpc[0]! tpc[7]! tpc[4]! tpc[2]!

/-- `Array.ConstrainedCopy` fills the whole of `outKey`, which is as long as the seed. -/
def generateKey : Provider := fun inSeed outKey _accessLevel parameters => do
  let kc ← getParameterBytearray parameters "K"
  let keyExpansionLevel ← getParameterInteger parameters "InternalLevel"
  if inSeed.length ≠ 8 ∨ outKey.length ≠ 8 then return none
  else
    let result ← generateKeyAt keyExpansionLevel.toInt (ofList 8 inSeed) kc
    return some result.toList

end AutoDiag.CSharp.VDOSecurityAlgo

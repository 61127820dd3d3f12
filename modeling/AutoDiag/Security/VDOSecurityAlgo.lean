import AutoDiag.Lib.Buffer
import AutoDiag.Security.Provider

/-!
# VDOSecurityAlgo

The provider that takes the key expansion level as a parameter of its own. It works on
separate byte arrays: the permuted seed `tp`, its copy `tpc` and the expanded key `ik`.
The constant `K` and the level come from outside, so reading them can fail.
-/

namespace AutoDiag.Security.VDOSecurityAlgo

open Buffer

/-- `data[i]` of a bytearray. -/
def item (data : Bytes) (i : Nat) : Except Exn UInt8 :=
  match data[i]? with
  | some b => .ok b
  | none => .error (.indexError "bytearray index out of range")

/-- `data[i]` for any integer: an index below zero counts from the end. -/
def itemFrom (data : Bytes) (i : Int) : Except Exn UInt8 :=
  if 0 ≤ i then item data i.toNat
  else if 0 ≤ i + data.length then item data (i + data.length).toNat
  else .error (.indexError "bytearray index out of range")

/-- `_rotate_bits`. -/
def rotateBits {n : Nat} (inBytes : Vector UInt8 n) : Vector UInt8 n :=
  let tempBuffer : Vector UInt8 n := loop n (fun i tempBuffer =>
    if 0 < inBytes[i]! &&& 1 then put tempBuffer i 0x80 else tempBuffer) (Vector.replicate n 0)
  loop n (fun i inBytes =>
    let rIndex : Int := i - 1
    let rIndex : Int := if rIndex < 0 then n - 1 else rIndex
    let inBytes := put inBytes i (inBytes[i]! >>> 1)
    put inBytes i (inBytes[i]! ||| tempBuffer[rIndex.toNat]!)) inBytes

/-- `_rotate_bits_n`. -/
def rotateBitsN {n : Nat} (inBytes : Vector UInt8 n) (count : Nat) : Vector UInt8 n :=
  rotateBits^[count] inBytes

/-! ## The key -/

/-- `_expand_32bit_key`. -/
def expand32bitKey (key : Vector UInt8 4) : Vector UInt8 4 :=
  let keyA := #v[key[0]!, key[1]!, key[2]!, key[3]!]
  let keyP := #v[key[1]!, key[3]!, key[0]!, key[2]!]
  let keyP := rotateBitsN keyP ((key[2]! &&& 0xF).toNat + 1)
  let keyA := rotateBitsN keyA ((key[3]! &&& 0xF).toNat + 1)
  loop 4 (fun i key => put key i (keyA[i]! ^^^ keyP[i]!)) key

/-- `_expand_full_key`: the first eight bytes it leaves in `key_constant`. -/
def expandFullKey (keyConstant : Bytes) : Except Exn (Vector UInt8 8) := do
  let keyLower := #v[← item keyConstant 0, ← item keyConstant 1, ← item keyConstant 2,
    ← item keyConstant 3]
  let keyUpper := #v[← item keyConstant 4, ← item keyConstant 5, ← item keyConstant 6,
    ← item keyConstant 7]
  return expand32bitKey keyLower ++ expand32bitKey keyUpper

/-- One turn of the loop in `_expand_and_transform_key`. -/
def morph (mKey : Vector UInt8 8) : Vector UInt8 8 :=
  let ek := mKey
  let xorIntermediate : UInt8 := 0
  let ek := put ek 0 ((ek[0]! &&& 8) >>> 3)
  let xorIntermediate := xorIntermediate ^^^ ek[0]!
  let ek := put ek 1 ((ek[1]! &&& 1) >>> 0)
  let xorIntermediate := xorIntermediate ^^^ ek[1]!
  let ek := put ek 2 ((ek[2]! &&& 2) >>> 1)
  let xorIntermediate := xorIntermediate ^^^ ek[2]!
  let ek := put ek 3 ((ek[3]! &&& 0x80) >>> 7)
  let xorIntermediate := xorIntermediate ^^^ ek[3]!
  let ek := put ek 4 ((ek[4]! &&& 0x20) >>> 5)
  let xorIntermediate := xorIntermediate ^^^ ek[4]!
  let ek := put ek 5 ((ek[5]! &&& 4) >>> 2)
  let xorIntermediate := xorIntermediate ^^^ ek[5]!
  let ek := put ek 6 ((ek[6]! &&& 0x40) >>> 6)
  let xorIntermediate := xorIntermediate ^^^ ek[6]!
  let snapshot := ek[7]!
  let ek := put ek 7 ((ek[7]! &&& 0x10) >>> 4)
  let xorIntermediate := xorIntermediate ^^^ ek[7]!
  let finalByteTransformed := xorIntermediate <<< 7 ||| (snapshot &&& 0x7F)
  rotateBits (put mKey 7 finalByteTransformed)

/-- `_expand_and_transform_key`. -/
def expandAndTransformKey (accessLevel : Int) (transposedSeed : Vector UInt8 8) (kc : Bytes) :
    Except Exn (Vector UInt8 8) := do
  let morphCount := ((← itemFrom transposedSeed.toList accessLevel) &&& 7).toNat + 2
  let mKey ← expandFullKey kc
  return morph^[morphCount] mKey

/-! ## The cipher -/

/-- The rotation of the four lower bytes, through an array of their own. -/
def rotateLower (tp : Vector UInt8 8) (rotateCount : Nat) : Vector UInt8 8 :=
  let lowerRotateBytes := rotateBits^[rotateCount] #v[tp[0]!, tp[1]!, tp[2]!, tp[3]!]
  let tp := put tp 0 lowerRotateBytes[0]!
  let tp := put tp 1 lowerRotateBytes[1]!
  let tp := put tp 2 lowerRotateBytes[2]!
  put tp 3 lowerRotateBytes[3]!

/-- The sum with the four bytes of `ik` from `offset` on. -/
def addKey (ik : Vector UInt8 8) (offset : Nat) (tp : Vector UInt8 8) : Vector UInt8 8 :=
  let tpSum := tp[0]!.toUInt32
  let tpSum := tpSum ||| tp[1]!.toUInt32 <<< 8
  let tpSum := tpSum ||| tp[2]!.toUInt32 <<< 16
  let tpSum := tpSum ||| tp[3]!.toUInt32 <<< 24
  let ikSum := ik[offset]!.toUInt32
  let ikSum := ikSum ||| ik[offset + 1]!.toUInt32 <<< 8
  let ikSum := ikSum ||| ik[offset + 2]!.toUInt32 <<< 16
  let ikSum := ikSum ||| ik[offset + 3]!.toUInt32 <<< 24
  let tpSum := tpSum + ikSum
  let tp := put tp 0 (tpSum >>> 0).toUInt8
  let tp := put tp 1 (tpSum >>> 8).toUInt8
  let tp := put tp 2 (tpSum >>> 16).toUInt8
  put tp 3 (tpSum >>> 24).toUInt8

/-- The old lower bytes become the upper ones. -/
def moveLower (tp tpc : Vector UInt8 8) : Vector UInt8 8 :=
  let tp := put tp 4 tpc[0]!
  let tp := put tp 5 tpc[1]!
  let tp := put tp 6 tpc[2]!
  put tp 7 tpc[3]!

/-- Half a cipher iteration, with the bytes of `ik` from `offset` on: the new `tp`, of which the new
`tpc` is a copy. -/
def halfIteration (ik : Vector UInt8 8) (tpcScramblerLevel : Int) (offset : Nat)
    (tp tpc : Vector UInt8 8) : Except Exn (Vector UInt8 8) := do
  let tp := zipInto (· ^^^ ·) tp 0 4 4
  let rotateCount := ((← itemFrom tpc.toList tpcScramblerLevel) &&& 3).toNat + 1
  return moveLower (addKey ik offset (rotateLower tp rotateCount)) tpc

/-- One turn of the loop over `_cipher_iter`. -/
def cipherIteration (ik : Vector UInt8 8) (tpcScramblerLevel : Int) (tp tpc : Vector UInt8 8) :
    Except Exn (Vector UInt8 8) := do
  let tp ← halfIteration ik tpcScramblerLevel 0 tp tpc
  halfIteration ik tpcScramblerLevel 4 tp tp

/-- `_generate_key`, with the `tpc_scrambler_level` its default gives. -/
def generateKeyAt (keyExpansionLevel : Int) (seed : Vector UInt8 8) (kc : Bytes) :
    Except Exn (Vector UInt8 8) := do
  let tpcScramblerLevel := keyExpansionLevel
  let tp := #v[seed[7]!, seed[4]!, seed[3]!, seed[6]!, seed[5]!, seed[1]!, seed[0]!, seed[2]!]
  let ik ← expandAndTransformKey keyExpansionLevel tp kc
  let tpc := #v[tp[0]!, tp[1]!, tp[2]!, tp[3]!, tp[4]!, tp[5]!, tp[6]!, tp[7]!]
  let tp ← cipherIteration ik tpcScramblerLevel tp tpc
  let tpc ← cipherIteration ik tpcScramblerLevel tp tp
  return #v[tpc[3]!, tpc[5]!, tpc[6]!, tpc[1]!, tpc[0]!, tpc[7]!, tpc[4]!, tpc[2]!]

/-- `VDOSecurityAlgo.generate_key`. -/
def generateKey : Provider := fun seed keyLength _accessLevel parameters => do
  let kc ← paramBytes parameters "K"
  let keyExpansionLevel ← paramInt parameters "InternalLevel"
  if seed.length ≠ 8 ∨ keyLength ≠ 8 then return none
  else
    let result ← generateKeyAt keyExpansionLevel (ofList 8 seed) kc
    return some result.toList

end AutoDiag.Security.VDOSecurityAlgo

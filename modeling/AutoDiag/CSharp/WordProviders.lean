import AutoDiag.CSharp.SecurityProvider

/-!
# The originals of the word providers

As `Security.WordProviders`, with a `uint` for a word and a `long` for what is
computed with it; the key is cut to a `uint` at the end.
-/

namespace AutoDiag.CSharp

open BitUtility

/-- A parameter that is used as one word. -/
def getParameterWord (parameters : List Security.Parameter) (key : String)
    (endian : Security.BitUtility.Endian) : Except Exception UInt32 := do
  let data ← getParameterBytearray parameters key
  bytesToInt data endian 0

/-- A key of one word, most significant byte first. -/
def wordKey (key : UInt32) (outKey : Bytes) : Except Exception (Option Bytes) := do
  let outKey ← intToBytes key outKey .big
  return some outKey

/-! ## Products and sums -/

/-- Two words of the seed, each multiplied and shifted by constants, and the crypto key. -/
def affine (key : String)
    (constants : List Security.Parameter → Except Exception (Int64 × Int64 × Int64 × Int64)) :
    Provider := fun inSeed outKey _accessLevel parameters => do
  let cryptoKey ← getParameterWord parameters key .big
  let (kA, kC, kA', kC') ← constants parameters
  if inSeed.length ≠ 8 ∨ outKey.length ≠ 4 then return none
  else
    let seedA := longOfUint (← bytesToInt inSeed .big 0)
    let seedB := longOfUint (← bytesToInt inSeed .big 4)
    let intermediate1 := kA * seedA + kC
    let intermediate2 := kA' * seedB + kC'
    let seedKey := intermediate1 ^^^ intermediate2 ^^^ longOfUint cryptoKey
    wordKey (uintOfLong seedKey) outKey

def DaimlerStandardSecurityAlgo.generateKey : Provider :=
  affine "K" fun _ => .ok (1103515245, 12345, 1103515245, 12345)

def DaimlerStandardSecurityAlgoMod.generateKey : Provider :=
  affine "K" fun parameters => do
    let kA ← getParameterLong parameters "kA"
    let kC ← getParameterLong parameters "kC"
    return (kA, kC, kA, kC)

def DaimlerStandardSecurityAlgoRefG.generateKey : Provider :=
  affine "K_refG" fun _ => .ok (3040238857, 2094854071, 4126034881, 3555108353)

def EDIFF290.generateKey : Provider := fun inSeed outKey _accessLevel parameters => do
  let cryptoKey ← getParameterWord parameters "KeyK" .big
  let kA := (← getParameterInteger parameters "kA").toInt64
  let kC := (← getParameterInteger parameters "kC").toInt64
  if inSeed.length ≠ 8 ∨ outKey.length ≠ 4 then return none
  else
    let seedA := longOfUint (← bytesToInt inSeed .big 0)
    let intermediate1 := kA * seedA
    let intermediate1 := intermediate1 &&& 0xFFFFFFFF
    let intermediate1 := intermediate1 + kC
    let intermediate1 := intermediate1 &&& 0xFFFFFFFF
    let seedKey ← remLong intermediate1 (longOfUint cryptoKey)
    wordKey (uintOfLong seedKey) outKey

def DRVU_PROF.generateKey : Provider := fun inSeed outKey _accessLevel parameters => do
  let cryptoKey ← getParameterWord parameters "KeyConst" .big
  let kA : Int64 := 258028488
  let kC : Int64 := 1583629211
  if inSeed.length ≠ 4 ∨ outKey.length ≠ 4 then return none
  else
    let seedA := longOfUint (← bytesToInt inSeed .big 0)
    let intermediate1 := kA * seedA + kC
    let seedKey ← remLong intermediate1 (longOfUint cryptoKey)
    wordKey (uintOfLong seedKey) outKey

/-- The seed is read as a word before its length is checked. -/
def MarquardtSecurityAlgo.generateKey : Provider := fun inSeed outKey _accessLevel parameters => do
  let constMBytes ← getParameterBytearray parameters "const_M"
  let constCBytes ← getParameterBytearray parameters "const_C"
  let constABytes ← getParameterBytearray parameters "const_A"
  let constM ← bytesToInt constMBytes .big 0
  let constC ← bytesToInt constCBytes .big 0
  let constA ← bytesToInt constABytes .big 0
  let inSeedAsInt ← bytesToInt inSeed .big 0
  if inSeed.length ≠ 4 ∨ outKey.length ≠ 4 then return none
  else
    let outKeyInt ← remUint (inSeedAsInt * constA) constM
    wordKey (constC + outKeyInt) outKey

def VGSSecurityAlgo.generateKey : Provider := fun inSeed outKey _accessLevel parameters => do
  let cryptoKey ← getParameterWord parameters "K" .big
  if inSeed.length ≠ 4 ∨ outKey.length ≠ 4 then return none
  else
    let seed := longOfUint (← bytesToInt inSeed .big 0)
    let seedKey := longOfUint cryptoKey * (longOfUint cryptoKey ^^^ seed)
    wordKey (uintOfLong seedKey) outKey

def VGSSecurityAlgoExt.generateKey : Provider := fun inSeed outKey _accessLevel parameters => do
  let cryptoKeyMult ← getParameterWord parameters "M" .big
  let cryptoKeyXor ← getParameterWord parameters "X" .big
  if inSeed.length ≠ 4 ∨ outKey.length ≠ 4 then return none
  else
    let seed := longOfUint (← bytesToInt inSeed .big 0)
    let seedKey := longOfUint cryptoKeyMult * (longOfUint cryptoKeyXor ^^^ seed)
    wordKey (uintOfLong seedKey) outKey

/-! ## Bitwise operations and sums -/

/-- The seed under a mask, an exclusive or and a sum, and what a provider does with the result. -/
def maskXorAdd (a b c : String) (finish : Int64 → Int64) : Provider :=
  fun inSeed outKey _accessLevel parameters => do
    let paramA := longOfUint (← getParameterWord parameters a .big)
    let paramB := longOfUint (← getParameterWord parameters b .big)
    let paramC := longOfUint (← getParameterWord parameters c .big)
    if inSeed.length ≠ 4 ∨ outKey.length ≠ 4 then return none
    else
      let inSeedAsLong := longOfUint (← bytesToInt inSeed .big 0)
      let inSeedAsLong := inSeedAsLong ||| paramA
      let inSeedAsLong := inSeedAsLong ^^^ paramB
      let inSeedAsLong := finish (inSeedAsLong + paramC)
      wordKey (uintOfLong inSeedAsLong) outKey

def RDU222.generateKey : Provider := maskXorAdd "a" "b" "c" fun x => x

def RVC222_MPC222_FCW246_LRR3.generateKey : Provider :=
  maskXorAdd "A" "B" "C" fun x => x ^^^ 0xFFFFFFFF

/-- The parameters are read after the lengths are checked. -/
def KI221Algo2.generateKey : Provider := fun inSeed outKey _accessLevel parameters => do
  if inSeed.length ≠ 4 ∨ outKey.length ≠ 4 then return none
  else
    let xorBytes ← getParameterBytearray parameters "Xor"
    let addBytes ← getParameterBytearray parameters "Add"
    let xor ← bytesToInt xorBytes .little 0
    let add ← bytesToInt addBytes .little 0
    let seed ← bytesToInt inSeed .big 0
    let seed := seed ^^^ xor
    let seed := seed + add
    wordKey seed outKey

/-- The four sums of `ORC166`, from the first four bytes of the seed. -/
def ORC166.sums (s0 s1 s2 s3 : Int32) : Int32 × Int32 × Int32 × Int32 :=
  ((s0 >>> 1) + (s1 <<< 1) + (s2 >>> 2) + (s3 <<< 2),
    (s0 <<< 1) + (s1 >>> 1) + (s2 <<< 2) + (s3 >>> 2),
    (s0 >>> 2) + (s1 <<< 2) + (s2 >>> 1) + (s3 <<< 1),
    (s0 <<< 2) + (s1 >>> 2) + (s2 <<< 1) + (s3 >>> 1))

def ORC166.generateKey : Provider := fun inSeed outKey _accessLevel parameters => do
  let cryptoKey ← getParameterWord parameters "staticKey" .big
  if outKey.length ≠ 4 then return none
  else if ¬ (inSeed.length = 4 ∨ inSeed.length = 8) then return none
  else
    let s0 := intOfByte (← item inSeed 0)
    let s1 := intOfByte (← item inSeed 1)
    let s2 := intOfByte (← item inSeed 2)
    let s3 := intOfByte (← item inSeed 3)
    let (i0, i1, i2, i3) := ORC166.sums s0 s1 s2 s3
    let i0 := (i0.toInt64 &&& 0xFF) <<< 24
    let i1 := (i1.toInt64 &&& 0xFF) <<< 16
    let i2 := (i2.toInt64 &&& 0xFF) <<< 8
    let i3 := (i3.toInt64 &&& 0xFF) <<< 0
    let seedKey := longOfUint cryptoKey + i0 + i1 + i2 + i3
    wordKey (uintOfLong seedKey) outKey

/-! ## Rotations -/

/-- One turn of the loop of `SWSP177`. -/
def SWSP177.turn (cryptoKey : UInt32) (seedA : UInt64) : UInt64 :=
  (seedA >>> 1 ||| (seedA &&& 1) * 0x80000000) ^^^ cryptoKey.toUInt64

def SWSP177.generateKey : Provider := fun inSeed outKey _accessLevel parameters => do
  let cryptoKey ← getParameterWord parameters "KeyConst" .big
  if inSeed.length ≠ 4 ∨ outKey.length ≠ 4 then return none
  else
    let seedA := (← bytesToInt inSeed .big 0).toUInt64
    let seedA := (SWSP177.turn cryptoKey)^[35] seedA
    let seedKey := seedA &&& 0xFFFFFFFF
    wordKey seedKey.toUInt32 outKey

def KI203Algo.generateKey : Provider := fun inSeed outKey _accessLevel parameters => do
  if inSeed.length ≠ 4 ∨ outKey.length ≠ 4 then return none
  else
    let root ← getParameterWord parameters "K" .big
    let ones := countOnes root
    let s2 := intOfByte (← item inSeed 2)
    let s0 := intOfByte (← item inSeed 0)
    let s3 := intOfByte (← item inSeed 3)
    let s1 := intOfByte (← item inSeed 1)
    let val := (s2 <<< 0 ||| s0 <<< 8 ||| s3 <<< 16 ||| s1 <<< 24).toUInt32
    let val := rotateLeft val 3
    let val := val ^^^ root
    let val := rotateRight val ones
    let outKey ← store outKey 0 (← getByte val 0)
    let outKey ← store outKey 1 (← getByte val 2)
    let outKey ← store outKey 2 (← getByte val 3)
    let outKey ← store outKey 3 (← getByte val 1)
    return some outKey

end AutoDiag.CSharp

import AutoDiag.Security.Provider

/-!
# Providers that compute with words

The seed and the constants of a definition are read as 32-bit words, combined as
integers without a bound, and the result is cut to 32 bits at the end. The
constants are read before the lengths are checked, unless a provider says
otherwise.
-/

namespace AutoDiag.Security

open BitUtility

/-! ## Products and sums -/

/-- Two words of the seed, each multiplied and shifted by constants, and the crypto key. -/
def affine (key : String)
    (constants : List Parameter → Except Exn (Int × Int × Int × Int)) : Provider :=
  fun seed keyLength _accessLevel parameters => do
    let cryptoKey ← paramWord parameters key .big
    let (kA, kC, kA', kC') ← constants parameters
    if seed.length ≠ 8 ∨ keyLength ≠ 4 then return none
    else
      let seedA := bytesToInt seed .big 0
      let seedB := bytesToInt seed .big 4
      let intermediate1 := kA * seedA + kC
      let intermediate2 := kA' * seedB + kC'
      let seedKey := Int.xor (Int.xor intermediate1 intermediate2) cryptoKey
      return some (intToBytes seedKey .big)

def DaimlerStandardSecurityAlgo.generateKey : Provider :=
  affine "K" fun _ => .ok (1103515245, 12345, 1103515245, 12345)

def DaimlerStandardSecurityAlgoMod.generateKey : Provider :=
  affine "K" fun parameters => do
    let kA ← paramLong parameters "kA"
    let kC ← paramLong parameters "kC"
    return (kA, kC, kA, kC)

def DaimlerStandardSecurityAlgoRefG.generateKey : Provider :=
  affine "K_refG" fun _ => .ok (3040238857, 2094854071, 4126034881, 3555108353)

def EDIFF290.generateKey : Provider := fun seed keyLength _accessLevel parameters => do
  let cryptoKey ← paramWord parameters "KeyK" .big
  let kA ← paramInt parameters "kA"
  let kC ← paramInt parameters "kC"
  if seed.length ≠ 8 ∨ keyLength ≠ 4 then return none
  else
    let seedA := bytesToInt seed .big 0
    -- held to 32 bits at each step
    let intermediate1 := (kA * seedA) % 0x100000000
    let intermediate1 := (intermediate1 + kC) % 0x100000000
    let seedKey ← Py.mod intermediate1.toNat cryptoKey
    return some (intToBytes seedKey .big)

def DRVU_PROF.generateKey : Provider := fun seed keyLength _accessLevel parameters => do
  let cryptoKey ← paramWord parameters "KeyConst" .big
  let kA := 258028488
  let kC := 1583629211
  if seed.length ≠ 4 ∨ keyLength ≠ 4 then return none
  else
    let seedA := bytesToInt seed .big 0
    let intermediate1 := kA * seedA + kC
    let seedKey ← Py.mod intermediate1 cryptoKey
    return some (intToBytes seedKey .big)

def MarquardtSecurityAlgo.generateKey : Provider := fun seed keyLength _accessLevel parameters => do
  let constMBytes ← paramBytes parameters "const_M"
  let constCBytes ← paramBytes parameters "const_C"
  let constABytes ← paramBytes parameters "const_A"
  let constM := bytesToInt constMBytes .big 0
  let constC := bytesToInt constCBytes .big 0
  let constA := bytesToInt constABytes .big 0
  let inSeedAsInt := bytesToInt seed .big 0
  if seed.length ≠ 4 ∨ keyLength ≠ 4 then return none
  else
    let outKeyInt ← Py.mod (inSeedAsInt * constA &&& u32) constM
    return some (intToBytes (constC + outKeyInt &&& u32 : Nat) .big)

def VGSSecurityAlgo.generateKey : Provider := fun seed keyLength _accessLevel parameters => do
  let cryptoKey ← paramWord parameters "K" .big
  if seed.length ≠ 4 ∨ keyLength ≠ 4 then return none
  else
    let seedVal := bytesToInt seed .big 0
    let seedKey := cryptoKey * (cryptoKey ^^^ seedVal)
    return some (intToBytes (seedKey &&& u32 : Nat) .big)

def VGSSecurityAlgoExt.generateKey : Provider := fun seed keyLength _accessLevel parameters => do
  let cryptoKeyMult ← paramWord parameters "M" .big
  let cryptoKeyXor ← paramWord parameters "X" .big
  if seed.length ≠ 4 ∨ keyLength ≠ 4 then return none
  else
    let seedVal := bytesToInt seed .big 0
    let seedKey := cryptoKeyMult * (cryptoKeyXor ^^^ seedVal)
    return some (intToBytes (seedKey &&& u32 : Nat) .big)

/-! ## Bitwise operations and sums -/

/-- The seed under a mask, an exclusive or and a sum, and what a provider does with the result. -/
def maskXorAdd (a b c : String) (finish : Nat → Nat) : Provider :=
  fun seed keyLength _accessLevel parameters => do
    let paramA ← paramWord parameters a .big
    let paramB ← paramWord parameters b .big
    let paramC ← paramWord parameters c .big
    if seed.length ≠ 4 ∨ keyLength ≠ 4 then return none
    else
      let inSeedAsLong := bytesToInt seed .big 0
      let inSeedAsLong := inSeedAsLong ||| paramA
      let inSeedAsLong := inSeedAsLong ^^^ paramB
      let inSeedAsLong := finish (inSeedAsLong + paramC)
      return some (intToBytes (inSeedAsLong &&& u32 : Nat) .big)

def RDU222.generateKey : Provider := maskXorAdd "a" "b" "c" fun x => x

def RVC222_MPC222_FCW246_LRR3.generateKey : Provider :=
  maskXorAdd "A" "B" "C" fun x => x ^^^ 0xFFFFFFFF

def KI221Algo2.generateKey : Provider := fun seed keyLength _accessLevel parameters => do
  if seed.length ≠ 4 ∨ keyLength ≠ 4 then return none
  else
    let xorBytes ← paramBytes parameters "Xor"
    let addBytes ← paramBytes parameters "Add"
    let xor := bytesToInt xorBytes .little 0
    let add := bytesToInt addBytes .little 0
    let seedVal := bytesToInt seed .big 0
    let seedVal := seedVal ^^^ xor
    let seedVal := seedVal + add &&& u32
    return some (intToBytes seedVal .big)

/-- The four sums of `ORC166`, from the first four bytes of the seed. -/
def ORC166.sums (s0 s1 s2 s3 : Nat) : Nat × Nat × Nat × Nat :=
  ((s0 >>> 1) + (s1 <<< 1) + (s2 >>> 2) + (s3 <<< 2),
    (s0 <<< 1) + (s1 >>> 1) + (s2 <<< 2) + (s3 >>> 2),
    (s0 >>> 2) + (s1 <<< 2) + (s2 >>> 1) + (s3 <<< 1),
    (s0 <<< 2) + (s1 >>> 2) + (s2 <<< 1) + (s3 >>> 1))

def ORC166.generateKey : Provider := fun seed keyLength _accessLevel parameters => do
  let cryptoKey ← paramWord parameters "staticKey" .big
  if keyLength ≠ 4 then return none
  else if ¬ (seed.length = 4 ∨ seed.length = 8) then return none
  else
    let s0 := (← Py.index seed 0).toNat
    let s1 := (← Py.index seed 1).toNat
    let s2 := (← Py.index seed 2).toNat
    let s3 := (← Py.index seed 3).toNat
    let (i0, i1, i2, i3) := ORC166.sums s0 s1 s2 s3
    let i0 := (i0 &&& 0xFF) <<< 24
    let i1 := (i1 &&& 0xFF) <<< 16
    let i2 := (i2 &&& 0xFF) <<< 8
    let i3 := (i3 &&& 0xFF) <<< 0
    let seedKey := cryptoKey + i0 + i1 + i2 + i3
    return some (intToBytes (seedKey &&& u32 : Nat) .big)

/-! ## Rotations -/

/-- One turn of the loop of `SWSP177`. -/
def SWSP177.turn (cryptoKey seedA : Nat) : Nat :=
  ((seedA >>> 1 ||| (seedA &&& 1) * 0x80000000) &&& 0xFFFFFFFFFFFFFFFF) ^^^ cryptoKey

def SWSP177.generateKey : Provider := fun seed keyLength _accessLevel parameters => do
  let cryptoKey ← paramWord parameters "KeyConst" .big
  if seed.length ≠ 4 ∨ keyLength ≠ 4 then return none
  else
    let seedA := bytesToInt seed .big 0
    let seedA := (SWSP177.turn cryptoKey)^[35] seedA
    let seedKey := seedA &&& 0xFFFFFFFF
    return some (intToBytes (seedKey &&& u32 : Nat) .big)

def KI203Algo.generateKey : Provider := fun seed keyLength _accessLevel parameters => do
  if seed.length ≠ 4 ∨ keyLength ≠ 4 then return none
  else
    let root ← paramWord parameters "K" .big
    let ones := countOnes root
    let s0 := (← Py.index seed 0).toNat
    let s1 := (← Py.index seed 1).toNat
    let s2 := (← Py.index seed 2).toNat
    let s3 := (← Py.index seed 3).toNat
    let val := (s2 <<< 0 ||| s0 <<< 8 ||| s3 <<< 16 ||| s1 <<< 24) &&& u32
    let val := rotateLeft val 3
    let val := val ^^^ root
    let val := rotateRight val ones
    return some [toItem (← getByte val 0), toItem (← getByte val 2), toItem (← getByte val 3),
      toItem (← getByte val 1)]

end AutoDiag.Security

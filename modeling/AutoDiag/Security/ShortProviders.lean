import AutoDiag.Security.Provider
import Mathlib.Data.Nat.Digits.Defs

/-!
# Providers with keys of two bytes, and those that copy

Sixteen-bit arithmetic on a seed of two bytes, the providers that give back the
seed or mask it, and the radio code, whose key is as long as it is asked to be.
-/

namespace AutoDiag.Security

open BitUtility

/-! ## Copies of the seed -/

def ArrayReverseAlgo.generateKey : Provider := fun seed keyLength _accessLevel _parameters =>
  if seed.length ≠ keyLength then .ok none
  else .ok (some seed.reverse)

def XorAlgo.generateKey : Provider := fun seed keyLength _accessLevel parameters => do
  let xorKey ← paramBytes parameters "K"
  if seed.length ≠ keyLength ∨ seed.length ≠ xorKey.length then return none
  else return some (List.zipWith (· ^^^ ·) seed xorKey)

/-- The seed, when seed and key have `n` bytes. -/
def copySeed (n : Nat) : Provider := fun seed keyLength _accessLevel _parameters =>
  if seed.length ≠ n ∨ keyLength ≠ n then .ok none
  else .ok (some seed)

def OCM172.generateKey : Provider := copySeed 2

def RBTM.generateKey : Provider := copySeed 4

/-! ## Sixteen bits -/

/-- A provider for seeds and keys of two bytes that needs the seed only. -/
def ofTwoBytes (key : UInt8 → UInt8 → Bytes) : Provider :=
  fun seed keyLength _accessLevel _parameters => do
    if seed.length ≠ 2 ∨ keyLength ≠ 2 then return none
    else
      let s0 ← Py.index seed 0
      let s1 ← Py.index seed 1
      return some (key s0 s1)

/-- The two lower bytes of a number, the upper one first. -/
def twoBytes (x : Nat) : Bytes := [toItem (x >>> 8), toItem x]

def ESPSecurityAlgoLevel1.generateKey : Provider := ofTwoBytes fun s0 s1 =>
  let seedAsInt := (s1.toNat ||| (s0.toNat &&& u32) <<< 8) &&& u32
  let key := ((4 * ((seedAsInt >>> 3 ^^^ seedAsInt) &&& u32)) &&& u32) ^^^ seedAsInt
  twoBytes (key &&& u32)

/-- `~x` is `-x - 1`, and the masks at the end take the lowest eight bits. -/
def HU45Algo.generateKey : Provider := ofTwoBytes fun s0 s1 =>
  let partialKey : Int := -(s0.toNat + s1.toNat <<< 8 : Nat) - 1 - 0x307
  [Py.lowByte (partialKey >>> (8 : Nat)), Py.lowByte (-(s0.toNat : Int) - 1 - 7)]

def ESP9212Algo1.generateKey : Provider := ofTwoBytes fun s0 s1 =>
  let val := s0.toNat &&& u32
  let val := val <<< 8 &&& u32
  let val := val ||| s1.toNat
  let snapshot := val
  let val := val / 4
  let val := val ^^^ snapshot
  let val := val * 8 &&& u32
  twoBytes (val ^^^ snapshot)

/-- Two bytes as a number, the first one at the top. -/
def joinBytes (hi lo : UInt8) : Nat := hi.toNat <<< 8 ||| lo.toNat

def VGSSecurityAlgo2Bytes.generateKey : Provider := fun seed keyLength _accessLevel parameters => do
  let cryptoKeyBytes ← paramBytes parameters "K"
  let k1 ← Py.index cryptoKeyBytes 1
  let k0 ← Py.index cryptoKeyBytes 0
  let cryptoKey := joinBytes k0 k1 &&& u32
  if seed.length ≠ 2 ∨ keyLength ≠ 2 then return none
  else
    -- the second byte of the seed is the upper one
    let seedVal := joinBytes (← Py.index seed 1) (← Py.index seed 0) &&& u32
    let seedKey := cryptoKey * ((cryptoKey ^^^ seedVal) &&& u32) &&& u32
    return some (twoBytes seedKey)

def HondaAlgo1.generateKey : Provider := fun seed keyLength _accessLevel parameters => do
  if seed.length ≠ 2 ∨ keyLength ≠ 2 then return none
  else
    let k ← paramBytes parameters "K"
    let k0Xor := joinBytes (← Py.index k 0) (← Py.index k 1) &&& 0xFFFF
    let k1Mul := joinBytes (← Py.index k 2) (← Py.index k 3) &&& 0xFFFF
    let k2Mod := joinBytes (← Py.index k 4) (← Py.index k 5) &&& 0xFFFF
    let seedU := joinBytes (← Py.index seed 0) (← Py.index seed 1) &&& 0xFFFF
    let key := seedU * k1Mul
    let key := if k2Mod ≠ 0 then key % k2Mod else key
    let key := key ^^^ (k0Xor + seedU)
    return some (twoBytes (key &&& 0xFFFF))

/-- One turn of the inner loop of `NetaAlgo1`. -/
def NetaAlgo1.turn (v : Nat) : Nat :=
  if v &&& 0x8000 = 0 then v <<< 1 &&& 0xFFFF
  else if v &&& 0x80 = 0 then (v <<< 1 ^^^ 0x8025) &&& 0xFFFF
  else (v <<< 1 ^^^ 0x8408) &&& 0xFFFF

def NetaAlgo1.generateKey : Provider := fun seed keyLength _accessLevel parameters => do
  if keyLength ≠ 2 then return none
  else if seed.length ≠ 2 then return none
  else
    let pinBytes ← paramBytes parameters "Pin"
    let p1 ← Py.index pinBytes 1
    let p0 ← Py.index pinBytes 0
    let v := seed.foldl
      (fun v challengeByte => NetaAlgo1.turn^[8] (v ^^^ challengeByte.toNat <<< 8))
      (joinBytes p0 p1)
    return some (twoBytes v)

def PowertrainBoschContiSecurityAlgo1.generateKey : Provider :=
  fun seed keyLength _accessLevel parameters => do
    let ubTable ← paramBytes parameters "ubTable"
    let mask ← paramBytes parameters "Mask"
    if seed.length ≠ 2 ∨ keyLength ≠ 2 then return none
    else
      let inSeedAsInt := joinBytes (← Py.index seed 0) (← Py.index seed 1) &&& u32
      let maskAsInt := joinBytes (← Py.index mask 0) (← Py.index mask 1) &&& u32
      let swBit1 := (inSeedAsInt &&& maskAsInt &&& 0x4000) >>> 12
      let swBit2 := (inSeedAsInt &&& maskAsInt &&& 0x200) >>> 8
      let swBit3 := (inSeedAsInt &&& maskAsInt &&& 0x100) >>> 8
      let entry ← Py.index ubTable (swBit1 ||| swBit2 ||| swBit3)
      let keyAsInt := entry.toNat * inSeedAsInt &&& u32
      return some (twoBytes (keyAsInt >>> 8))

/-- The variables of the loop of `PowertrainBoschContiSecurityAlgo2`. -/
structure PowertrainBoschContiSecurityAlgo2.State where
  shiftIndexA : Nat
  shiftIndexB : Nat
  activatedBits : Nat

/-- One turn of the loop. -/
def PowertrainBoschContiSecurityAlgo2.turn (inSeedAsInt uwMascAsInt : Nat)
    (s : PowertrainBoschContiSecurityAlgo2.State) : PowertrainBoschContiSecurityAlgo2.State :=
  let masked := 0 < s.shiftIndexA &&& uwMascAsInt
  let active := 0 < s.shiftIndexA &&& inSeedAsInt
  { shiftIndexA := s.shiftIndexA * 2 &&& u32
    shiftIndexB := if masked then s.shiftIndexB * 2 &&& u32 else s.shiftIndexB
    activatedBits :=
      if masked ∧ active then s.activatedBits ||| s.shiftIndexB else s.activatedBits }

/-- The seed bits that the mask selects, closed up. -/
def PowertrainBoschContiSecurityAlgo2.activatedBits (inSeedAsInt uwMascAsInt : Nat) : Nat :=
  ((turn inSeedAsInt uwMascAsInt)^[16] ⟨1, 1, 0⟩).activatedBits

def PowertrainBoschContiSecurityAlgo2.generateKey : Provider :=
  fun seed keyLength _accessLevel parameters => do
    let table ← paramBytes parameters "Table"
    let uwMasc ← paramBytes parameters "uwMasc"
    if seed.length ≠ 2 ∨ keyLength ≠ 2 then return none
    else
      let inSeedAsInt := joinBytes (← Py.index seed 0) (← Py.index seed 1) &&& u32
      let uwMascAsInt := joinBytes (← Py.index uwMasc 0) (← Py.index uwMasc 1) &&& u32
      let entry ← Py.index table (activatedBits inSeedAsInt uwMascAsInt)
      let keyAsInt := (entry.toNat * inSeedAsInt &&& u32) >>> 8
      return some (twoBytes (keyAsInt &&& 0xFFFF))

/-! ## The radio code -/

namespace RenaultRadio

/-- `_c_mod`, for a divisor that is not zero: the sign is that of the dividend. -/
def cMod (a b : Int) : Int :=
  let r : Int := (a.natAbs % b.natAbs : Nat)
  if a < 0 then -r else r

/-- `var1` and `var3`, from the first four bytes of the seed. -/
def vars (c0 c1 c2 c3 : UInt8) : Int × Int :=
  let var0 : Int := if 0x61 ≤ c0 ∧ c0 ≤ 0x7A then c0.toNat - 0x20 else c0.toNat
  let var0 := var0 * 5
  let var1 := var0 * 2 + c1.toNat - 698
  let var2 := (c2.toNat * 5 : Int) * 2 + var1
  let var3 := (c3.toNat : Int) + var2 - 528
  (var1, var3)

/-- `eax`, the code as a number, where `var1` is not zero. -/
def code (var1 var3 : Int) : Int :=
  let sum := cMod (var3 * 8 - var3) 100
  let sum := if sum < 0 then sum + 100 else sum
  let call := sum / 10
  let remainder := cMod sum 10 * 5
  let varf := remainder * 2 + call
  let eax := cMod (cMod 259 var1) 100
  let eax := eax * 5
  let edx := eax * 5
  edx * 4 + varf

/-- The digits of `f"{n:04d}"`, for a number that is not negative. -/
def digits4 (n : Nat) : List Nat :=
  let digits := (Nat.digits 10 n).reverse
  List.replicate (4 - digits.length) 0 ++ digits

/-- `bytearray(n)`. -/
def zeroBytes (n : Int) : Except Exn Bytes :=
  if n < 0 then .error (.valueError "negative count") else .ok (List.replicate n.toNat 0)

def generateKey : Provider := fun seed keyLength _accessLevel _parameters => do
  if seed.length < 4 then return none
  else
    let c0 ← Py.index seed 0
    let c1 ← Py.index seed 1
    let c2 ← Py.index seed 2
    let c3 ← Py.index seed 3
    let (var1, var3) := vars c0 c1 c2 c3
    if var1 = 0 then return none
    else
      let eax := code var1 var3
      let outKey ← zeroBytes keyLength
      if outKey.length < 2 then return none
      else
        let s := digits4 eax.toNat
        let outKey := outKey.set 0 (toItem ((← Py.item s 0) <<< 4 ||| (← Py.item s 1)))
        let outKey := outKey.set 1 (toItem ((← Py.item s 2) <<< 4 ||| (← Py.item s 3)))
        return some outKey

end RenaultRadio

end AutoDiag.Security

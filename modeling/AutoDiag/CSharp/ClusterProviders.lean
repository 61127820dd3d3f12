import AutoDiag.CSharp.WordProviders

/-!
# The originals of the tables of IC172 and of the rotation schemes

`KIAlgo1` mixes `uint`, `ushort` and `int`: a `ushort` is promoted to `int` by every
operator and cut again by every assignment.
-/

namespace AutoDiag.CSharp

open BitUtility

/-! ## IC172 -/

namespace IC172Algo1

/-- `keyPool`. -/
def keyPool : List Bytes :=
  [[0xEF, 0xCD, 0xAB, 0x89, 0x67, 0x45, 0x23, 0x01],
    [0x45, 0x67, 0x01, 0x23, 0xCD, 0xEF, 0x89, 0xAB],
    [0x01, 0x23, 0x45, 0x67, 0x89, 0xAB, 0xCD, 0xEF],
    [0x89, 0xAB, 0xCD, 0xEF, 0x01, 0x23, 0x45, 0x67],
    [0x54, 0x76, 0x10, 0x32, 0xDC, 0xFE, 0x98, 0xBA],
    [0xEF, 0xCD, 0xAB, 0x89, 0x67, 0x45, 0x23, 0x01],
    [0x89, 0xAB, 0xCD, 0xEF, 0x01, 0x23, 0x45, 0x67],
    [0xBA, 0x98, 0xFE, 0xDC, 0x32, 0x10, 0x76, 0x54]]

/-- `transpositionTable`. -/
def transpositionTable : List Nat := [5, 2, 7, 4, 1, 6, 3, 0]

/-- The loop that fills `intermediateKey`. -/
def intermediateKey (seedInput : Bytes) : List (Bytes × Nat) → Except Exception Bytes
  | [] => .ok []
  | (row, place) :: entries => do
    let i ← item seedInput place
    let b ← item (expandNibbles row) i.toNat
    let more ← intermediateKey seedInput entries
    return b :: more

/-- The two `Array.ConstrainedCopy`, for a key of eight bytes. -/
def generateKey : Provider := fun inSeed outKey _accessLevel _parameters => do
  if inSeed.length ≠ 8 ∨ outKey.length ≠ 8 then return none
  else
    let seedInput := expandNibbles
      [← item inSeed 0, ← item inSeed 2, ← item inSeed 4, ← item inSeed 6]
    let intermediateKey ← intermediateKey seedInput (keyPool.zip transpositionTable)
    let suffix : Bytes := [0x55, 0x45, 0x43, 0x55]
    let assembledKey ← collapseNibbles intermediateKey
    return some (assembledKey.take 4 ++ suffix)

end IC172Algo1

namespace IC172Algo2

/-- `keyPool`. -/
def keyPool : List (List Int32) :=
  [[0, -1, -2, -3, -4, -5, -6, -7, -8, -9, -10, -11, -12, -13, -14, -15],
    [251, 252, 253, 254, 255, 256, 257, 258, 243, 244, 245, 246, 247, 248, 249, 250],
    [0, 1, -2, -1, 4, 5, 2, 3, 8, 9, 6, 7, 12, 13, 10, 11],
    [73, 72, 75, 74, 69, 68, 71, 70, 81, 80, 83, 82, 77, 76, 79, 78],
    [0, -1, -2, -3, 4, 3, 2, 1, 8, 7, 6, 5, 12, 11, 10, 9],
    [203, 202, 205, 204, 207, 206, 209, 208, 195, 194, 197, 196, 199, 198, 201, 200],
    [0, 1, 2, 3, -4, -3, -2, -1, 8, 9, 10, 11, 4, 5, 6, 7],
    [185, 184, 183, 182, 181, 180, 179, 178, 193, 192, 191, 190, 189, 188, 187, 186]]

/-- The loop that adds up `key_result`, over the rows of the pool and the nibbles. -/
def keyResult : List (List Int32 × UInt8) → Int32 → Except Exception Int32
  | [], result => .ok result
  | (row, nibble) :: entries, result => do
    let x ← item row nibble.toNat
    keyResult entries (result + x <<< Int32.ofNat (4 * entries.length))

def generateKey : Provider := fun inSeed outKey _accessLevel _parameters => do
  if inSeed.length ≠ 4 ∨ outKey.length ≠ 4 then return none
  else
    let nibbles := expandNibbles inSeed
    let result ← keyResult (keyPool.zip nibbles) 0
    wordKey result.toUInt32 outKey

end IC172Algo2

/-! ## The rotation schemes -/

namespace KI221Algo1

/-- `key`, from the regrouped bytes and the root key. -/
def keyWord (rootKey rs : UInt32) : UInt32 :=
  let inter := ((rs <<< 29) + (rs >>> 3)) ^^^ rootKey
  (inter >>> 25) + (inter <<< 7)

/-- `k[i] ^= b`. -/
def xorAt (k : Bytes) (i : Nat) (b : UInt8) : Except Exception Bytes := do
  let x ← item k i
  store k i (byteOfInt (intOfByte x ^^^ intOfByte b))

/-- `Array.ConstrainedCopy(result, 0, outKey, 0, 7)`, for a key of seven bytes. -/
def generateKey : Provider := fun inSeed outKey _accessLevel parameters => do
  if inSeed.length ≠ 8 ∨ outKey.length ≠ 7 then return none
  else
    let level ← getParameterByte parameters "Level"
    let k ← getParameterBytearray parameters "K"
    let rootKey ← bytesToInt k .big 0
    let k ← xorAt k 0 (← item inSeed 6)
    let k ← xorAt k 1 (← item inSeed 4)
    let k ← xorAt k 2 (← item inSeed 2)
    let k ← xorAt k 3 (← item inSeed 0)
    let rs ← bytesToInt [← item k 0, ← item k 3, ← item k 2, ← item k 1] .little 0
    let k ← intToBytes (keyWord rootKey rs) k .big
    return some [level, ← item k 0, ← item k 3, ← item k 2, ← item k 1, 0, 0]

end KI221Algo1

namespace KIAlgo1

/-- `BitSet`: a `uint` and an `int` meet as `long`s. -/
def bitSet (input : UInt32) (bit : Int32) : Bool :=
  decide (longOfUint input &&& (1 <<< bit : Int32).toInt64 > 0)

/-- One turn of `RotateLeft`. -/
def rotateLeftTurn (input : UInt16) : UInt16 :=
  if intOfUshort input &&& 0x8000 = 0 then ushortOfInt (intOfUshort input <<< 1)
  else
    let input := ushortOfInt (intOfUshort input <<< 1)
    ushortOfInt (intOfUshort input ||| 1)

/-- `RotateLeft` of a `ushort`. -/
def rotateLeft (input : UInt16) (rotations : Nat) : UInt16 := rotateLeftTurn^[rotations] input

/-- One turn of `RotateRight`. -/
def rotateRightTurn (input : UInt32) : UInt32 :=
  if input &&& 1 = 0 then input >>> 1 else input >>> 1 ||| 0x80000000

/-- `RotateRight` of a `uint`. -/
def rotateRight (input : UInt32) (rotations : Nat) : UInt32 := rotateRightTurn^[rotations] input

/-- One turn of the loop over the root key. -/
def rootTurn (rootRotated : UInt32) : UInt32 :=
  let msbSet := ((bitSet rootRotated 0 ^^ bitSet rootRotated 7) ^^ bitSet rootRotated 17)
    ^^ bitSet rootRotated 26
  let rootRotated := rootRotated &&& 0x7FFFFFFF
  let rootRotated := rootRotated ||| if msbSet then 0x80000000 else 0
  rotateRight rootRotated 1

/-- One turn of the loop over the halves of the seed. -/
def seedTurn (rotationCount : Nat) : UInt32 × UInt16 × UInt16 → UInt32 × UInt16 × UInt16
  | (rootRotated, seedHigh, seedLow) =>
    let seedHigh := ushortOfInt (intOfUshort seedHigh ^^^ intOfUshort seedLow)
    let seedHigh := rotateLeft seedHigh rotationCount
    let tangled := ushortOfInt (intOfUshort seedHigh + intOfUshort rootRotated.toUInt16)
    (rootRotated >>> 16, seedLow, tangled)

/-- `prefix`, from the root key and the regrouped seed. -/
def prefixWord (root seedRegrouped : UInt32) : UInt32 :=
  let rotationCount := (seedRegrouped &&& 7).toNat + 2
  let rootRotated := rootTurn^[rotationCount] root
  let seedHigh := (seedRegrouped >>> 16).toUInt16
  let seedLow := seedRegrouped.toUInt16
  let (_, seedHigh, seedLow) := (seedTurn rotationCount)^[2] (rootRotated, seedHigh, seedLow)
  (intOfUshort seedLow ||| intOfUshort seedHigh <<< 16).toUInt32

def generateKey : Provider := fun inSeed outKey _accessLevel parameters => do
  let level ← getParameterByte parameters "Level"
  let rootRotated ← getParameterWord parameters "K" .big
  if inSeed.length ≠ 8 ∨ outKey.length ≠ 7 then return none
  else
    let seedRegrouped ← bytesToInt
      [← item inSeed 2, ← item inSeed 6, ← item inSeed 0, ← item inSeed 4] .little 0
    let prefixBytes ← intToBytes (prefixWord rootRotated seedRegrouped) [0, 0, 0, 0] .little
    let outKey ← store outKey 1 (← item prefixBytes 0)
    let outKey ← store outKey 2 (← item prefixBytes 1)
    let outKey ← store outKey 3 (← item prefixBytes 3)
    let outKey ← store outKey 4 (← item prefixBytes 2)
    let outKey ← store outKey 0 level
    let outKey ← store outKey 5 0xFF
    let outKey ← store outKey 6 0xFF
    return some outKey

end KIAlgo1

end AutoDiag.CSharp

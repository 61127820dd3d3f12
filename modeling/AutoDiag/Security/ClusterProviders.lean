import AutoDiag.Security.Provider

/-!
# Providers of instrument clusters

The tables of IC172 and the two rotation schemes of the older clusters.
-/

namespace AutoDiag.Security

open BitUtility

/-! ## IC172 -/

namespace IC172Algo1

/-- `key_pool`. -/
def keyPool : List Bytes :=
  [[0xEF, 0xCD, 0xAB, 0x89, 0x67, 0x45, 0x23, 0x01],
    [0x45, 0x67, 0x01, 0x23, 0xCD, 0xEF, 0x89, 0xAB],
    [0x01, 0x23, 0x45, 0x67, 0x89, 0xAB, 0xCD, 0xEF],
    [0x89, 0xAB, 0xCD, 0xEF, 0x01, 0x23, 0x45, 0x67],
    [0x54, 0x76, 0x10, 0x32, 0xDC, 0xFE, 0x98, 0xBA],
    [0xEF, 0xCD, 0xAB, 0x89, 0x67, 0x45, 0x23, 0x01],
    [0x89, 0xAB, 0xCD, 0xEF, 0x01, 0x23, 0x45, 0x67],
    [0xBA, 0x98, 0xFE, 0xDC, 0x32, 0x10, 0x76, 0x54]]

/-- `transposition_table`. -/
def transpositionTable : List Nat := [5, 2, 7, 4, 1, 6, 3, 0]

/-- The nibble of a place of the key, from its row of the pool. -/
def nibble (seedInput : Bytes) (row : Bytes) (place : Nat) : Except Exn UInt8 := do
  let i ← Py.index seedInput place
  Py.index (expandNibbles row) i.toNat

/-- The loop that fills `intermediate_key`. -/
def intermediateKey (seedInput : Bytes) : List (Bytes × Nat) → Except Exn Bytes
  | [] => .ok []
  | (row, place) :: entries => do
    let b ← nibble seedInput row place
    let more ← intermediateKey seedInput entries
    return b :: more

def generateKey : Provider := fun seed keyLength _accessLevel _parameters => do
  if seed.length ≠ 8 ∨ keyLength ≠ 8 then return none
  else
    let seedInput := expandNibbles
      [← Py.index seed 0, ← Py.index seed 2, ← Py.index seed 4, ← Py.index seed 6]
    let key ← intermediateKey seedInput (keyPool.zip transpositionTable)
    let assembledKey ← collapseNibbles key
    let suffix : Bytes := [0x55, 0x45, 0x43, 0x55]
    return some (assembledKey.take 4 ++ suffix)

end IC172Algo1

namespace IC172Algo2

/-- `key_pool`. -/
def keyPool : List (List Int) :=
  [[0, -1, -2, -3, -4, -5, -6, -7, -8, -9, -10, -11, -12, -13, -14, -15],
    [251, 252, 253, 254, 255, 256, 257, 258, 243, 244, 245, 246, 247, 248, 249, 250],
    [0, 1, -2, -1, 4, 5, 2, 3, 8, 9, 6, 7, 12, 13, 10, 11],
    [73, 72, 75, 74, 69, 68, 71, 70, 81, 80, 83, 82, 77, 76, 79, 78],
    [0, -1, -2, -3, 4, 3, 2, 1, 8, 7, 6, 5, 12, 11, 10, 9],
    [203, 202, 205, 204, 207, 206, 209, 208, 195, 194, 197, 196, 199, 198, 201, 200],
    [0, 1, 2, 3, -4, -3, -2, -1, 8, 9, 10, 11, 4, 5, 6, 7],
    [185, 184, 183, 182, 181, 180, 179, 178, 193, 192, 191, 190, 189, 188, 187, 186]]

/-- The loop that adds up `key_result`, over the rows of the pool and the nibbles. -/
def keyResult : List (List Int × UInt8) → Int → Except Exn Int
  | [], result => .ok result
  | (row, nibble) :: entries, result => do
    let x ← Py.item row nibble.toNat
    keyResult entries (result + x * 2 ^ (4 * entries.length))

def generateKey : Provider := fun seed keyLength _accessLevel _parameters => do
  if seed.length ≠ 4 ∨ keyLength ≠ 4 then return none
  else
    let nibbles := expandNibbles seed
    let result ← keyResult (keyPool.zip nibbles) 0
    return some (intToBytes result .big)

end IC172Algo2

/-! ## The rotation schemes -/

namespace KI221Algo1

/-- The key word, from the regrouped bytes and the root key. -/
def keyWord (rootKey rs : Nat) : Nat :=
  let inter := ((rs <<< 29 &&& u32) + rs >>> 3) &&& u32
  let inter := (inter ^^^ rootKey) &&& u32
  (inter >>> 25 + (inter <<< 7 &&& u32)) &&& u32

def generateKey : Provider := fun seed keyLength _accessLevel parameters => do
  if seed.length ≠ 8 ∨ keyLength ≠ 7 then return none
  else
    let level ← paramByte parameters "Level"
    let k ← paramBytes parameters "K"
    let rootKey := bytesToInt k .big 0
    let k0 := (← Py.index k 0) ^^^ (← Py.index seed 6)
    let k1 := (← Py.index k 1) ^^^ (← Py.index seed 4)
    let k2 := (← Py.index k 2) ^^^ (← Py.index seed 2)
    let k3 := (← Py.index k 3) ^^^ (← Py.index seed 0)
    let rs := bytesToInt [k0, k3, k2, k1] .little 0
    let keyBytes := intToBytes (keyWord rootKey rs) .big
    let k0 ← Py.index keyBytes 0
    let k1 ← Py.index keyBytes 1
    let k2 ← Py.index keyBytes 2
    let k3 ← Py.index keyBytes 3
    return some [← Py.toByte level, k0, k3, k2, k1, 0, 0]

end KI221Algo1

namespace KIAlgo1

/-- `_bit_set`. -/
def bitSet (inputVal bit : Nat) : Bool := decide (0 < inputVal &&& 1 <<< bit)

/-- One turn of `_rotate_left_u16`. -/
def rotateLeftU16Turn (inputVal : Nat) : Nat :=
  if inputVal &&& 0x8000 = 0 then inputVal <<< 1 &&& 0xFFFF
  else (inputVal <<< 1 &&& 0xFFFF) ||| 1

/-- `_rotate_left_u16`. -/
def rotateLeftU16 (inputVal rotations : Nat) : Nat :=
  rotateLeftU16Turn^[rotations] (inputVal &&& 0xFFFF) &&& 0xFFFF

/-- One turn of `_rotate_right_u32`. -/
def rotateRightU32Turn (inputVal : Nat) : Nat :=
  if inputVal &&& 1 = 0 then inputVal >>> 1 else inputVal >>> 1 ||| 0x80000000

/-- `_rotate_right_u32`. -/
def rotateRightU32 (inputVal rotations : Nat) : Nat :=
  rotateRightU32Turn^[rotations] (inputVal &&& u32) &&& u32

/-- One turn of the loop over the root key. -/
def rootTurn (rootRotated : Nat) : Nat :=
  let msbSet := ((bitSet rootRotated 0 ^^ bitSet rootRotated 7) ^^ bitSet rootRotated 17)
    ^^ bitSet rootRotated 26
  let rootRotated := rootRotated &&& 0x7FFFFFFF
  let rootRotated := rootRotated ||| if msbSet then 0x80000000 else 0
  rotateRightU32 rootRotated 1

/-- One turn of the loop over the halves of the seed. -/
def seedTurn (rotationCount : Nat) : Nat × Nat × Nat → Nat × Nat × Nat
  | (rootRotated, seedHigh, seedLow) =>
    let seedHigh := seedHigh ^^^ seedLow
    let seedHigh := rotateLeftU16 seedHigh rotationCount
    let tangled := (seedHigh + (rootRotated &&& 0xFFFF)) &&& 0xFFFF
    (rootRotated >>> 16, seedLow, tangled)

/-- `prefix`, from the root key and the regrouped seed. -/
def prefixWord (root seedRegrouped : Nat) : Nat :=
  let rotationCount := (seedRegrouped &&& 7) + 2
  let rootRotated := rootTurn^[rotationCount] root
  let seedHigh := seedRegrouped >>> 16 &&& 0xFFFF
  let seedLow := seedRegrouped &&& 0xFFFF
  let (_, seedHigh, seedLow) := (seedTurn rotationCount)^[2] (rootRotated, seedHigh, seedLow)
  (seedLow ||| seedHigh <<< 16) &&& u32

def generateKey : Provider := fun seed keyLength _accessLevel parameters => do
  let level ← paramByte parameters "Level"
  let rootRotated ← paramWord parameters "K" .big
  if seed.length ≠ 8 ∨ keyLength ≠ 7 then return none
  else
    let seedRegrouped := bytesToInt
      [← Py.index seed 2, ← Py.index seed 6, ← Py.index seed 0, ← Py.index seed 4] .little 0
    let prefixBytes := intToBytes (prefixWord rootRotated seedRegrouped) .little
    let p0 ← Py.index prefixBytes 0
    let p1 ← Py.index prefixBytes 1
    let p2 ← Py.index prefixBytes 2
    let p3 ← Py.index prefixBytes 3
    return some [← Py.toByte level, p0, p1, p3, p2, 0xFF, 0xFF]

end KIAlgo1

end AutoDiag.Security

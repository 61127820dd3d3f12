import AutoDiag.Security.Provider

/-!
# Powertrain providers

A few bits of the seed select one row of a matrix, the D value; with it applied,
three more bits select the G value. The members of the family differ in where the
bits are taken from and in the order of the bytes of the G value.
-/

namespace AutoDiag.Security

open BitUtility

/-! ## Rows of a matrix -/

/-- One bit of the number of a row, where it is enabled. -/
def rowBit (bitEnabled j : Nat) (bitPosition : Int) : Except Exn Nat :=
  if bitEnabled ≠ 0 then setBit j bitPosition else .ok j

/-- `j` of `_create_d_value` and `_create_g_value`: the number of the row. -/
def rowNumber (bit2Enabled bit1Enabled bit0Enabled : Nat) : Except Exn Nat := do
  let j ← rowBit bit0Enabled 0 0
  let j ← rowBit bit1Enabled j 1
  rowBit bit2Enabled j 2

/-- The word whose bytes, from the lowest one up, are at these four places of the row. -/
def rowWord (places : List Nat) (bit2Enabled bit1Enabled bit0Enabled : Nat)
    (matrix : List (List Nat)) : Except Exn Nat := do
  let j ← rowNumber bit2Enabled bit1Enabled bit0Enabled
  let row ← Py.item matrix j
  let i ← (places.zip [0, 1, 2, 3]).foldlM
    (fun i (place, position) => do setByte i (← Py.item row place) position) 0
  return i &&& u32

/-- `_create_d_value`, the same in the whole family. -/
def createDValue : Nat → Nat → Nat → List (List Nat) → Except Exn Nat := rowWord [3, 2, 1, 0]

/-- The reversed seed. -/
def reversedSeed (seed : Bytes) : Except Exn Bytes := do
  let s3 ← Py.index seed 3
  let s2 ← Py.index seed 2
  let s1 ← Py.index seed 1
  let s0 ← Py.index seed 0
  return [s3, s2, s1, s0]

/-! ## Selection by parameters -/

/-- The names `X00` to `X73` behind a prefix, row by row. -/
def cellNames (stem : String) : List (List String) :=
  (List.range 8).map fun row => (List.range 4).map fun column =>
    stem ++ toString row ++ toString column

/-- The names `i1` to `i6` behind a prefix. -/
def indexNames (stem : String) : List String := (List.range 6).map fun n => stem ++ toString (n + 1)

/-- `get_bit(working_seed[i], j)`. -/
def seedBit (workingSeed : Bytes) (i j : Int) : Except Exn Nat := do
  let b ← Py.indexFrom workingSeed i
  getBit b.toNat j

/-- What the six pairs of index parameters select from the seed: the key. -/
def selectedKey (createGValue : Nat → Nat → Nat → List (List Nat) → Except Exn Nat)
    (matrix : List (List Nat)) (i j : List Int) (seed : Bytes) : Except Exn Nat := do
  let workingSeed ← reversedSeed seed
  let y := (← Py.indexFrom workingSeed (← Py.item i 0)).toNat
    ^^^ (← Py.indexFrom workingSeed (← Py.item i 1)).toNat
  let y := y &&& 0xFF
  let dBit2 ← seedBit workingSeed (← Py.item i 2) (← Py.item j 0)
  let dBit1 ← seedBit workingSeed (← Py.item i 3) (← Py.item j 1)
  let dBit0 ← getBit y (← Py.item j 2)
  let dValue ← createDValue dBit2 dBit1 dBit0 matrix
  let seedAsInt := bytesToInt workingSeed .little 0
  let dXorIntermediate := (seedAsInt ^^^ dValue) &&& u32
  let gBit2 ← seedBit workingSeed (← Py.item i 4) (← Py.item j 3)
  let gBit1 ← getBit y (← Py.item j 4)
  let gBit0 ← getBit (← getByte dXorIntermediate (← Py.item i 5)) (← Py.item j 5)
  let gValue ← createGValue gBit2 gBit1 gBit0 matrix
  return (dXorIntermediate ^^^ gValue) &&& u32

/-- A provider with a matrix of byte parameters and index parameters. -/
def selectByParameters (cells i j : String)
    (createGValue : Nat → Nat → Nat → List (List Nat) → Except Exn Nat) : Provider :=
  fun seed keyLength _accessLevel parameters => do
    let matrix ← (cellNames cells).mapM fun row => row.mapM (paramByte parameters)
    let i ← (indexNames i).mapM (paramInt parameters)
    let j ← (indexNames j).mapM (paramInt parameters)
    if seed.length ≠ 4 ∨ keyLength ≠ 4 then return none
    else
      let seedKey ← selectedKey createGValue matrix i j seed
      return some (intToBytes seedKey .big)

/-- `_create_g_value`. -/
def PowertrainSecurityAlgo.createGValue : Nat → Nat → Nat → List (List Nat) → Except Exn Nat :=
  rowWord [2, 1, 0, 3]

def PowertrainSecurityAlgo.generateKey : Provider :=
  selectByParameters "X" "i" "j" PowertrainSecurityAlgo.createGValue

/-- `_create_g_value`; the byte order differs from that of `PowertrainSecurityAlgo`. -/
def PowertrainSecurityAlgo2.createGValue : Nat → Nat → Nat → List (List Nat) → Except Exn Nat :=
  rowWord [0, 3, 2, 1]

def PowertrainSecurityAlgo2.generateKey : Provider :=
  selectByParameters "XX" "ii" "jj" PowertrainSecurityAlgo2.createGValue

/-! ## Selection at fixed places -/

/-- The three selected bits, bit 2 first. -/
abbrev Selection := Nat × Nat × Nat

/-- The key, from two matrices and the places the bits come from. -/
def fixedKey (dBits : UInt8 → UInt8 → UInt8 → UInt8 → Except Exn Selection)
    (gBits : UInt8 → UInt8 → UInt8 → UInt8 → Nat → Except Exn Selection)
    (dValueMatrix gValueMatrix : List (List Nat)) (seed : Bytes) : Except Exn Nat := do
  let workingSeed ← reversedSeed seed
  let w0 ← Py.index workingSeed 0
  let w1 ← Py.index workingSeed 1
  let w2 ← Py.index workingSeed 2
  let w3 ← Py.index workingSeed 3
  let (dBit2, dBit1, dBit0) ← dBits w0 w1 w2 w3
  let dValue ← createDValue dBit2 dBit1 dBit0 dValueMatrix
  let seedAsInt := bytesToInt workingSeed .little 0
  let dXorIntermediate := (seedAsInt ^^^ dValue) &&& u32
  let (gBit2, gBit1, gBit0) ← gBits w0 w1 w2 w3 dXorIntermediate
  let gValue ← createDValue gBit2 gBit1 gBit0 gValueMatrix
  return (dXorIntermediate ^^^ gValue) &&& u32

/-- The byte array parameters with a number behind a prefix, the rows of a matrix. -/
def matrixRows (parameters : List Parameter) (stem : String) : Except Exn (List (List Nat)) :=
  (List.range 8).mapM fun row => do
    let data ← paramBytes parameters (stem ++ toString row)
    return data.map UInt8.toNat

/-- A provider with two matrices of byte array parameters. -/
def selectFixed (dBits : UInt8 → UInt8 → UInt8 → UInt8 → Except Exn Selection)
    (gBits : UInt8 → UInt8 → UInt8 → UInt8 → Nat → Except Exn Selection) : Provider :=
  fun seed keyLength _accessLevel parameters => do
    let dValueMatrix ← matrixRows parameters "D_VALUE_"
    let gValueMatrix ← matrixRows parameters "G_VALUE_"
    if seed.length ≠ 4 ∨ keyLength ≠ 4 then return none
    else
      let seedKey ← fixedKey dBits gBits dValueMatrix gValueMatrix seed
      return some (intToBytes seedKey .big)

/-- The bits of the D value. -/
def PowertrainDelphiSecurityAlgo.dBits (w0 w1 w2 w3 : UInt8) : Except Exn Selection := do
  let dBit2 ← getBit ((w1.toNat ^^^ w0.toNat) &&& 0xFF) 3
  let dBit1 ← getBit w2.toNat 3
  let dBit0 ← getBit w3.toNat 6
  return (dBit2, dBit1, dBit0)

/-- The bits of the G value. -/
def PowertrainDelphiSecurityAlgo.gBits (w0 w1 _w2 _w3 : UInt8) (dXorIntermediate : Nat) :
    Except Exn Selection := do
  let y := (w1.toNat ^^^ w0.toNat) &&& 0xFF
  let gBit0 ← getBit w1.toNat 3
  let gBit1 ← getBit y 7
  let gBit2 ← getBit (← getByte dXorIntermediate 1) 2
  return (gBit2, gBit1, gBit0)

def PowertrainDelphiSecurityAlgo.generateKey : Provider :=
  selectFixed PowertrainDelphiSecurityAlgo.dBits PowertrainDelphiSecurityAlgo.gBits

/-- The bits of the D value. -/
def PowertrainSecurityAlgoNFZ.dBits (w0 w1 w2 w3 : UInt8) : Except Exn Selection := do
  let dBit2 ← getBit ((w3.toNat ^^^ w1.toNat) &&& 0xFF) 1
  let dBit1 ← getBit w2.toNat 4
  let dBit0 ← getBit w0.toNat 6
  return (dBit2, dBit1, dBit0)

/-- The bits of the G value. -/
def PowertrainSecurityAlgoNFZ.gBits (w0 _w1 w2 _w3 : UInt8) (dXorIntermediate : Nat) :
    Except Exn Selection := do
  let gBit0 ← getBit (← getByte dXorIntermediate 3) 4
  let gBit1 ← getBit w0.toNat 1
  let gBit2 ← getBit w2.toNat 6
  return (gBit2, gBit1, gBit0)

def PowertrainSecurityAlgoNFZ.generateKey : Provider :=
  selectFixed PowertrainSecurityAlgoNFZ.dBits PowertrainSecurityAlgoNFZ.gBits

/-! ## Selection from a table of words -/

namespace PowertrainSecurityAlgo3

/-- `_FINAL_XOR_KEY`. -/
def finalXorKey : Nat := 0x40088C88

/-- `_SOURCE_BIT_POSITIONS`. -/
def sourceBitPositions : List Nat := [3, 7, 10, 11, 15, 19, 30]

/-- `_LOOKUP_TABLE`. -/
def lookupTable : List Nat :=
  [0x45D145D1, 0x406E47C6, 0x5450C446, 0x51EFC651, 0x47CE507A, 0x4271526D, 0x3121A3DA,
    0x349EA1CD, 0x0CECABBF, 0x0953A9A8, 0x105B10DF, 0x15E412C8, 0x3E1D91A6, 0x3BA293B1,
    0xA316122F, 0xA6A91038, 0x545044C6, 0x51EF46D1, 0x45D1C551, 0x406EC746, 0x3121235A,
    0x349E214D, 0x47CED0FA, 0x4271D2ED, 0x105B905F, 0x15E49248, 0x0CEC2B3F, 0x09532928,
    0xA31692AF, 0xA6A990B8, 0x3E1D1126, 0x3BA21331, 0xC4CE5450, 0xA54D2082, 0xD54FD5C7,
    0xD3A2D322, 0xC6D141FB, 0xA7523529, 0xB03EB25B, 0xB6D3B4BE, 0xD921E349, 0x884CB829,
    0x442A60C0, 0x94FB0349, 0xEBD0D950, 0xBABD8230, 0xF7676230, 0x27B601B9, 0xD54F5547,
    0xD3A253A2, 0xC4CED4D0, 0xA54DA002, 0xB03E32DB, 0xB6D3343E, 0xC6D1C17B, 0xA752B5A9,
    0x442AE040, 0x94FB83C9, 0xD92163C9, 0x884C38A9, 0xF767E2B0, 0x27B68139, 0xEBD059D0,
    0xBABD02B0, 0xE3BF18F8, 0xDDA62A01, 0x9550EB58, 0xAB49D9A1, 0xE1A00D53, 0xDFB93FAA,
    0xF0218CC4, 0xCE38BE3D, 0xA1CAE9CA, 0x9FD3DB33, 0x3CC16A43, 0x02D858BA, 0x933BD3D3,
    0xAD22E12A, 0x8F8C68B3, 0xB1955A4A, 0x95506BD8, 0xAB495921, 0xE3BF9878, 0xDDA6AA81,
    0xF0210C44, 0xCE383EBD, 0xE1A08DD3, 0xDFB9BF2A, 0x3CC1EAC3, 0x02D8D83A, 0xA1CA694A,
    0x9FD35BB3, 0x8F8CE833, 0xB195DACA, 0x933B5353, 0xAD2261AA, 0x5A4815E4, 0x5CB8A6A1,
    0x4BC99473, 0x4D392736, 0x5857004F, 0x5EA7B30A, 0x2EB8F3EF, 0x284840AA, 0x103A4AD8,
    0x16CAF99D, 0x0C8DF1B8, 0x0A7D42FD, 0x22CB70C1, 0x243BC384, 0xBFC0F348, 0xB930400D,
    0x4BC914F3, 0x4D39A7B6, 0x5A489564, 0x5CB82621, 0x2EB8736F, 0x2848C02A, 0x585780CF,
    0x5EA7338A, 0x0C8D7138, 0x0A7DC27D, 0x103ACA58, 0x16CA791D, 0xBFC073C8, 0xB930C08D,
    0x22CBF041, 0x243B4304]

/-- `_remap_bit`. -/
def remapBit (inValue sourceBitPosition destinationBitPosition : Nat) : Nat :=
  (if 0 < inValue &&& 1 <<< sourceBitPosition then 1 <<< destinationBitPosition else 0) &&& u32

/-- `remapped_value`. -/
def remap (seedVal : Nat) : Nat :=
  let remappedValue := sourceBitPositions.zipIdx.foldl
    (fun remappedValue (position, idx) => remappedValue ||| remapBit seedVal position idx) 0
  remappedValue &&& u32

def generateKey : Provider := fun seed keyLength _accessLevel _parameters => do
  if seed.length ≠ 4 ∨ keyLength ≠ 4 then return none
  else
    let seedVal := bytesToInt seed .big 0
    let entry ← Py.item lookupTable (remap seedVal)
    let key := (seedVal ^^^ (seedVal &&& finalXorKey) ^^^ entry) &&& u32
    return some (intToBytes key .big)

end PowertrainSecurityAlgo3

end AutoDiag.Security

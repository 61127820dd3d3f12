import AutoDiag.CSharp.WordProviders

/-!
# The originals of the powertrain providers

As `Security.Powertrain`, with bits and bytes of their C# types.
-/

namespace AutoDiag.CSharp

open BitUtility

/-! ## Rows of a matrix -/

/-- One bit of the number of a row, where it is enabled. -/
def rowBit (bitEnabled : Int32) (j : UInt8) (bitPosition : Int32) : Except Exception UInt8 :=
  if bitEnabled ≠ 0 then setBit j bitPosition else .ok j

/-- `j` of `CreateDValue` and `CreateGValue`: the number of the row. -/
def rowNumber (bit2Enabled bit1Enabled bit0Enabled : Int32) : Except Exception UInt8 := do
  let j ← rowBit bit0Enabled 0 0
  let j ← rowBit bit1Enabled j 1
  rowBit bit2Enabled j 2

/-- The word whose bytes, from the lowest one up, are at these four places of the row. -/
def rowWord (places : List Nat) (bit2Enabled bit1Enabled bit0Enabled : Int32)
    (matrix : List Bytes) : Except Exception UInt32 := do
  let j ← rowNumber bit2Enabled bit1Enabled bit0Enabled
  (places.zip [0, 1, 2, 3]).foldlM
    (fun i (place, position) => do setByte i (← item (← item matrix j.toNat) place) position) 0

/-- `CreateDValue`, the same in the whole family. -/
def createDValue : Int32 → Int32 → Int32 → List Bytes → Except Exception UInt32 :=
  rowWord [3, 2, 1, 0]

/-- The reversed seed. -/
def reversedSeed (inSeed : Bytes) : Except Exception Bytes := do
  let s3 ← item inSeed 3
  let s2 ← item inSeed 2
  let s1 ← item inSeed 1
  let s0 ← item inSeed 0
  return [s3, s2, s1, s0]

/-! ## Selection by parameters -/

/-- `GetBit(workingSeed[i], j)`. -/
def seedBit (workingSeed : Bytes) (i j : Int32) : Except Exception UInt8 := do
  let b ← item workingSeed i.toInt
  getBit b j

/-- What the six pairs of index parameters select from the seed: the key. -/
def selectedKey (createGValue : Int32 → Int32 → Int32 → List Bytes → Except Exception UInt32)
    (matrix : List Bytes) (i j : List Int32) (inSeed : Bytes) : Except Exception UInt32 := do
  let workingSeed ← reversedSeed inSeed
  let a ← item workingSeed (← item i 0).toInt
  let b ← item workingSeed (← item i 1).toInt
  let y := byteOfInt (intOfByte a ^^^ intOfByte b)
  let dBit2 ← seedBit workingSeed (← item i 2) (← item j 0)
  let dBit1 ← seedBit workingSeed (← item i 3) (← item j 1)
  let dBit0 ← getBit y (← item j 2)
  let dValue ← createDValue (intOfByte dBit2) (intOfByte dBit1) (intOfByte dBit0) matrix
  let seedAsInt ← bytesToInt workingSeed .little 0
  let dXorIntermediate := seedAsInt ^^^ dValue
  let gBit2 ← seedBit workingSeed (← item i 4) (← item j 3)
  let gBit1 ← getBit y (← item j 4)
  let gBit0 ← getBit (← getByte dXorIntermediate (← item i 5)) (← item j 5)
  let gValue ← createGValue (intOfByte gBit2) (intOfByte gBit1) (intOfByte gBit0) matrix
  return dXorIntermediate ^^^ gValue

/-- A provider with a matrix of byte parameters and index parameters of these names. -/
def selectByParameters (cells : List (List String)) (i j : List String)
    (createGValue : Int32 → Int32 → Int32 → List Bytes → Except Exception UInt32) : Provider :=
  fun inSeed outKey _accessLevel parameters => do
    let matrix ← cells.mapM fun row => row.mapM (getParameterByte parameters)
    let i ← i.mapM (getParameterInteger parameters)
    let j ← j.mapM (getParameterInteger parameters)
    if inSeed.length ≠ 4 ∨ outKey.length ≠ 4 then return none
    else
      let seedKey ← selectedKey createGValue matrix i j inSeed
      wordKey seedKey outKey

/-- `CreateGValue`. -/
def PowertrainSecurityAlgo.createGValue :
    Int32 → Int32 → Int32 → List Bytes → Except Exception UInt32 := rowWord [2, 1, 0, 3]

def PowertrainSecurityAlgo.generateKey : Provider :=
  selectByParameters
    [["X00", "X01", "X02", "X03"], ["X10", "X11", "X12", "X13"],
      ["X20", "X21", "X22", "X23"], ["X30", "X31", "X32", "X33"],
      ["X40", "X41", "X42", "X43"], ["X50", "X51", "X52", "X53"],
      ["X60", "X61", "X62", "X63"], ["X70", "X71", "X72", "X73"]]
    ["i1", "i2", "i3", "i4", "i5", "i6"]
    ["j1", "j2", "j3", "j4", "j5", "j6"] PowertrainSecurityAlgo.createGValue

/-- `CreateGValue`; the byte order differs from that of `PowertrainSecurityAlgo`. -/
def PowertrainSecurityAlgo2.createGValue :
    Int32 → Int32 → Int32 → List Bytes → Except Exception UInt32 := rowWord [0, 3, 2, 1]

def PowertrainSecurityAlgo2.generateKey : Provider :=
  selectByParameters
    [["XX00", "XX01", "XX02", "XX03"], ["XX10", "XX11", "XX12", "XX13"],
      ["XX20", "XX21", "XX22", "XX23"], ["XX30", "XX31", "XX32", "XX33"],
      ["XX40", "XX41", "XX42", "XX43"], ["XX50", "XX51", "XX52", "XX53"],
      ["XX60", "XX61", "XX62", "XX63"], ["XX70", "XX71", "XX72", "XX73"]]
    ["ii1", "ii2", "ii3", "ii4", "ii5", "ii6"]
    ["jj1", "jj2", "jj3", "jj4", "jj5", "jj6"] PowertrainSecurityAlgo2.createGValue

/-! ## Selection at fixed places -/

/-- The three selected bits, bit 2 first. -/
abbrev Selection := UInt8 × UInt8 × UInt8

/-- The key, from two matrices and the places the bits come from. -/
def fixedKey (dBits : UInt8 → UInt8 → UInt8 → UInt8 → Except Exception Selection)
    (gBits : UInt8 → UInt8 → UInt8 → UInt8 → UInt32 → Except Exception Selection)
    (dValueMatrix gValueMatrix : List Bytes) (inSeed : Bytes) : Except Exception UInt32 := do
  let workingSeed ← reversedSeed inSeed
  let w0 ← item workingSeed 0
  let w1 ← item workingSeed 1
  let w2 ← item workingSeed 2
  let w3 ← item workingSeed 3
  let (dBit2, dBit1, dBit0) ← dBits w0 w1 w2 w3
  let dValue ← createDValue (intOfByte dBit2) (intOfByte dBit1) (intOfByte dBit0) dValueMatrix
  let seedAsInt ← bytesToInt workingSeed .little 0
  let dXorIntermediate := seedAsInt ^^^ dValue
  let (gBit2, gBit1, gBit0) ← gBits w0 w1 w2 w3 dXorIntermediate
  let gValue ← createDValue (intOfByte gBit2) (intOfByte gBit1) (intOfByte gBit0) gValueMatrix
  return dXorIntermediate ^^^ gValue

/-- The byte array parameters with a number behind a prefix, the rows of a matrix. -/
def matrixRows (parameters : List Security.Parameter) (stem : String) :
    Except Exception (List Bytes) :=
  (List.range 8).mapM fun row => getParameterBytearray parameters (stem ++ toString row)

/-- A provider with two matrices of byte array parameters. -/
def selectFixed (dBits : UInt8 → UInt8 → UInt8 → UInt8 → Except Exception Selection)
    (gBits : UInt8 → UInt8 → UInt8 → UInt8 → UInt32 → Except Exception Selection) : Provider :=
  fun inSeed outKey _accessLevel parameters => do
    let dValueMatrix ← matrixRows parameters "D_VALUE_"
    let gValueMatrix ← matrixRows parameters "G_VALUE_"
    if inSeed.length ≠ 4 ∨ outKey.length ≠ 4 then return none
    else
      let seedKey ← fixedKey dBits gBits dValueMatrix gValueMatrix inSeed
      wordKey seedKey outKey

/-- `a ^ b` of two bytes, cut to a byte. -/
def xorByte (a b : UInt8) : UInt8 := byteOfInt (intOfByte a ^^^ intOfByte b)

/-- The bits of the D value. -/
def PowertrainDelphiSecurityAlgo.dBits (w0 w1 w2 w3 : UInt8) : Except Exception Selection := do
  let dBit2 ← getBit (xorByte w1 w0) 3
  let dBit1 ← getBit w2 3
  let dBit0 ← getBit w3 6
  return (dBit2, dBit1, dBit0)

/-- The bits of the G value. -/
def PowertrainDelphiSecurityAlgo.gBits (w0 w1 _w2 _w3 : UInt8) (dXorIntermediate : UInt32) :
    Except Exception Selection := do
  let y := xorByte w1 w0
  let gBit0 ← getBit w1 3
  let gBit1 ← getBit y 7
  let gBit2 ← getBit (← getByte dXorIntermediate 1) 2
  return (gBit2, gBit1, gBit0)

def PowertrainDelphiSecurityAlgo.generateKey : Provider :=
  selectFixed PowertrainDelphiSecurityAlgo.dBits PowertrainDelphiSecurityAlgo.gBits

/-- The bits of the D value. -/
def PowertrainSecurityAlgoNFZ.dBits (w0 w1 w2 w3 : UInt8) : Except Exception Selection := do
  let dBit2 ← getBit (xorByte w3 w1) 1
  let dBit1 ← getBit w2 4
  let dBit0 ← getBit w0 6
  return (dBit2, dBit1, dBit0)

/-- The bits of the G value. -/
def PowertrainSecurityAlgoNFZ.gBits (w0 _w1 w2 _w3 : UInt8) (dXorIntermediate : UInt32) :
    Except Exception Selection := do
  let gBit0 ← getBit (← getByte dXorIntermediate 3) 4
  let gBit1 ← getBit w0 1
  let gBit2 ← getBit w2 6
  return (gBit2, gBit1, gBit0)

def PowertrainSecurityAlgoNFZ.generateKey : Provider :=
  selectFixed PowertrainSecurityAlgoNFZ.dBits PowertrainSecurityAlgoNFZ.gBits

/-! ## Selection from a table of words -/

namespace PowertrainSecurityAlgo3

/-- `FinalXorKey`. -/
def finalXorKey : UInt32 := 0x40088C88

/-- `SourceBitPositions`. -/
def sourceBitPositions : List Int32 := [3, 7, 10, 11, 15, 19, 30]

/-- `LookupTable`. -/
def lookupTable : List UInt32 :=
  [0x45D145D1, 0x406E47C6, 0x5450C446, 0x51EFC651, 0x47CE507A, 0x4271526D, 0x3121A3DA,
    0x349EA1CD, 0x0CECABBF, 0x0953A9A8, 0x105B10DF, 0x15E412C8, 0x3E1D91A6, 0x3BA293B1,
    0xA316122F, 0xA6A91038, 0x545044C6, 0x51EF46D1, 0x45D1C551, 0x406EC746, 0x3121235A,
    0x349E214D, 0x47CED0FA, 0x4271D2ED, 0x105B905F, 0x15E49248, 0x0CEC2B3F, 0x09532928,
    0xA31692AF, 0xA6A990B8, 0x3E1D1126, 0x3BA21331, 0xC4CE5450, 0xA54D2082, 0xD54FD5C7,
    0xD3A2D322, 0xC6D141FB, 0xA7523529, 0xB03EB25B, 0xB6D3B4BE, 0xD921E349, 0x884CB829,
    0x442A60C0, 0x94FB0349, 0xEBD0D950, 0xBABD8230, 0xF7676230, 0x27B601B9, 0xD54F5547,
    0xD3A253A2, 0xC4CED4D0, 0xA54DA002, 0xB03E32DB, 0xB6D3343E, 0xC6D1C17B, 0xA752B5A9,
    0x442AE040, 0x94FB83C9, 0xD92163C9, 0x884C38A9, 0xF767E2B0, 0x27B68139, 0xEBD059D0,
    0xBABD02B0, 0xE3BF18F8, 0xDDA62A01, 0x9550EB58, 0xAB49D9A1, 0xE1A00D53, 0xDFB93FAA,
    0xF0218CC4, 0xCE38BE3D, 0xA1CAE9CA, 0x9FD3DB33, 0x3CC16A43, 0x02D858BA, 0x933BD3D3,
    0xAD22E12A, 0x8F8C68B3, 0xB1955A4A, 0x95506BD8, 0xAB495921, 0xE3BF9878, 0xDDA6AA81,
    0xF0210C44, 0xCE383EBD, 0xE1A08DD3, 0xDFB9BF2A, 0x3CC1EAC3, 0x02D8D83A, 0xA1CA694A,
    0x9FD35BB3, 0x8F8CE833, 0xB195DACA, 0x933B5353, 0xAD2261AA, 0x5A4815E4, 0x5CB8A6A1,
    0x4BC99473, 0x4D392736, 0x5857004F, 0x5EA7B30A, 0x2EB8F3EF, 0x284840AA, 0x103A4AD8,
    0x16CAF99D, 0x0C8DF1B8, 0x0A7D42FD, 0x22CB70C1, 0x243BC384, 0xBFC0F348, 0xB930400D,
    0x4BC914F3, 0x4D39A7B6, 0x5A489564, 0x5CB82621, 0x2EB8736F, 0x2848C02A, 0x585780CF,
    0x5EA7338A, 0x0C8D7138, 0x0A7DC27D, 0x103ACA58, 0x16CA791D, 0xBFC073C8, 0xB930C08D,
    0x22CBF041, 0x243B4304]

/-- `RemapBit`: a `uint` and an `int` meet as `long`s. -/
def remapBit (inValue : UInt32) (sourceBitPosition destinationBitPosition : Int32) : UInt32 :=
  (if longOfUint inValue &&& (1 <<< sourceBitPosition : Int32).toInt64 > 0 then
    1 <<< destinationBitPosition
  else (0 : Int32)).toUInt32

/-- `remappedValue`. -/
def remap (seed : UInt32) : UInt32 :=
  sourceBitPositions.zipIdx.foldl
    (fun remappedValue (position, i) => remappedValue ||| remapBit seed position (Int32.ofNat i)) 0

def generateKey : Provider := fun inSeed outKey _accessLevel _parameters => do
  if inSeed.length ≠ 4 ∨ outKey.length ≠ 4 then return none
  else
    let seed ← bytesToInt inSeed .big 0
    let entry ← item lookupTable (remap seed).toNat
    let key := seed ^^^ (seed &&& finalXorKey) ^^^ entry
    wordKey key outKey

end PowertrainSecurityAlgo3

end AutoDiag.CSharp

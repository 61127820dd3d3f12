import AutoDiag.Transport.Base

/-!
# Stored trouble codes over SAE J1979

The codec of `protocol/dtc.py` and the reading of trouble codes in
`protocol/obd2.py`.
-/

namespace AutoDiag

namespace Dtc

/-- `_CATEGORY`, at an index from 0 to 3. -/
def category : Nat → Char
  | 0 => 'P'
  | 1 => 'C'
  | 2 => 'B'
  | _ => 'U'

/-- `decode_dtc`. -/
def decodeDtc (hi lo : UInt8) : Str :=
  category ((hi &&& 0xC0) >>> 6).toNat :: Hex.digit ((hi &&& 0x30) >>> 4).toNat
    :: Hex.digit (hi &&& 0x0F).toNat :: Hex.ofByte lo

/-- `_CATEGORY_INDEX[c.upper()]`. -/
def categoryIndex (c : Char) : Except Exn Int :=
  match c.toUpper with
  | 'P' => .ok 0
  | 'C' => .ok 1
  | 'B' => .ok 2
  | 'U' => .ok 3
  | c => .error (.keyError (String.singleton c))

/-- `encode_dtc`. -/
def encodeDtc (code : Str) : Except Exn Bytes := do
  let cat ← categoryIndex (← Py.charAt code 0)
  let first ← Py.intOfHex [← Py.charAt code 1]
  let rest ← Py.intOfHex (code.drop 2)
  let value := Int.lor (Int.lor (cat <<< (14 : Nat)) (first <<< (12 : Nat))) rest
  return [Py.lowByte (value >>> (8 : Nat)), Py.lowByte value]

/-- The code that stands for no code. -/
def none : Str := ['P', '0', '0', '0', '0']

end Dtc

namespace Obd2

/-- `_positive`: the payloads that answer a mode, and a PID where one is asked for. -/
def positive (responses : List EcuResponse) (sid : UInt8) (pid : Option UInt8) : List Bytes :=
  (responses.map EcuResponse.data).filter fun d =>
    decide (d[0]? = some (sid + 0x40)) && match pid with
      | .none => true
      | some p => decide (d[1]? = some p)

/-- The loop of `_parse_dtc_payload` over the pairs of the body, `usable` bytes of it. -/
def decodePairs : Nat → Bytes → List Str
  | usable + 2, hi :: lo :: body =>
    let code := Dtc.decodeDtc hi lo
    if code ≠ Dtc.none then code :: decodePairs usable body else decodePairs usable body
  | _, _ => []

/-- `_parse_dtc_payload`: `4X <count> <hi lo> <hi lo> ...`. -/
def parseDtcPayload : Bytes → List Str
  | _ :: count :: body =>
    decodePairs (min (count.toNat * 2) (body.length - body.length % 2)) body
  | _ => []

variable {σ : Type}

/-- `_read_dtcs`. -/
def readDtcsOf (transport : Transport σ) (mode : UInt8) : Call Exn σ (List Str) := do
  let responses ← transport.request [mode] true
  return (positive responses mode .none).flatMap parseDtcPayload

/-- `read_dtcs`: mode 03. -/
def readDtcs (transport : Transport σ) : Call Exn σ (List Str) := readDtcsOf transport 0x03

end Obd2

end AutoDiag

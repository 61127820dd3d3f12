import AutoDiag.Lib.Demux
import AutoDiag.Transport.Base

/-!
# The ELM327 backend

The adapter answers a command with text up to its `>` prompt. With headers on
and spaces off each line of it is one CAN frame: three hex digits of source id,
then the frame. `parseElmResponse` sorts the frames by source and
`reassembleIsotp` turns each source's frames into one payload.
-/

namespace AutoDiag.Elm327

open Py

/-- `_is_hex`. -/
def isHex (s : Str) : Bool := s.all fun c => decide (c ∈ Hex.digits)

/-- Texts by which the adapter reports that a line is no frame. -/
def statusTokens : List Str :=
  [['S', 'E', 'A', 'R', 'C', 'H', 'I', 'N', 'G'], ['N', 'O', 'D', 'A', 'T', 'A'],
    ['S', 'T', 'O', 'P', 'P', 'E', 'D'], ['E', 'R', 'R', 'O', 'R'],
    ['U', 'N', 'A', 'B', 'L', 'E'], ['?']]

/-- `line.strip().replace(" ", "").upper()`. -/
def cleanLine (line : Str) : Str := upper (remove ' ' (strip line))

/-- The frame a line carries, or `none` where the loop of `_parse_elm_response` continues. -/
def lineFrame (line : Str) : Option (Nat × Bytes) :=
  let line := cleanLine line
  if line = [] ∨ line = ['>'] then none
  else if statusTokens.any (isIn · line) then none
  else if line.length < 4 ∨ isHex line = false then none
  else
    let src := Hex.toNat (line.take 3)
    match fromHex (line.drop 3) with
    | none => none -- the `ValueError` of an odd digit count
    | some frame => if frame = [] then none else some (src, frame)

/-- One more frame of a first-frame message; only consecutive frames add to the data. -/
def appendFrame (data f : Bytes) : Bytes :=
  match f with
  | [] => data
  | b :: tail => if b >>> 4 = 0x2 then data ++ tail else data

/-- `_reassemble_isotp`. -/
def reassembleIsotp : List Bytes → Except Exn Bytes
  | [] => .ok []
  | first :: rest => do
    let b0 ← index first 0
    let pciType := b0 >>> 4
    if pciType = 0x0 then
      let length := (b0 &&& 0x0F).toNat
      return slice first 1 (1 + length)
    else if pciType = 0x1 then
      let b1 ← index first 1
      let length := ((b0 &&& 0x0F).toNat <<< 8) ||| b1.toNat
      return (rest.foldl appendFrame (first.drop 2)).take length
    else
      return first -- unexpected leading frame type: raw, as a best effort

/-- The second loop of `_parse_elm_response`: one response for every source with data. -/
def gatherResponses (d : Demux Nat Bytes) : List Nat → Except Exn (List EcuResponse)
  | [] => .ok []
  | src :: order => do
    let frames ← match d.groups.lookup src with
      | some frames => .ok frames
      | none => .error (.keyError (toString src))
    let data ← reassembleIsotp frames
    let more ← gatherResponses d order
    return if data = [] then more else ⟨src, data⟩ :: more

/-- `raw.replace("\r", "\n").split("\n")`. -/
def splitLines (raw : Str) : List Str := (replaceChar '\r' '\n' raw).splitOn '\n'

/-- `_parse_elm_response`. -/
def parseElmResponse (raw : Str) : Except Exn (List EcuResponse) :=
  let d := Demux.collect ((splitLines raw).filterMap lineFrame)
  gatherResponses d d.order

/-! ## The transport -/

/-- The serial object behind the adapter, as far as the transport uses it. -/
structure SerialPort (δ : Type) where
  write : Bytes → Call Exn δ Unit
  /-- `read_until(b">")`: what arrived up to the prompt, or up to the timeout. -/
  readUntil : Call Exn δ Bytes

variable {δ : Type}

/-- `_send_line`. -/
def sendLine (port : SerialPort δ) (command : Str) : Call Exn δ Str := do
  port.write ((command ++ ['\r']).map fun c => UInt8.ofNat c.toNat)
  let data ← port.readUntil
  return decodeAscii data

/-! ## Opening and closing -/

/-- `_INIT_COMMANDS`. -/
def initCommands : List Str :=
  [['A', 'T', 'Z'], ['A', 'T', 'E', '0'], ['A', 'T', 'L', '0'], ['A', 'T', 'S', '0'],
    ['A', 'T', 'H', '1'], ['A', 'T', 'S', 'P', '0']]

/-- The serial library: what the factory and the objects it returns do. -/
structure Serial (ι δ : Type) where
  factory : Call Exn δ ι
  port : ι → SerialPort δ
  close : ι → Call Exn δ Unit

/-- `_ser`, and the devices behind every serial object. -/
structure Held (ι δ : Type) where
  ser : Option ι
  device : δ

/-- Every command in turn, its answer ignored. -/
def sendAll (port : SerialPort δ) : List Str → Call Exn δ Unit
  | [] => pure ()
  | command :: commands => do
    let _ ← sendLine port command
    sendAll port commands

variable {ι : Type}

/-- `Elm327Transport.open`; the handle is kept before the first command is sent. -/
def openTransport (serial : Serial ι δ) : Call Exn (Held ι δ) Unit := fun s =>
  match serial.factory s.device with
  | (.error e, d) => (.error e, { s with device := d })
  | (.ok handle, d) =>
    let r := sendAll (serial.port handle) initCommands d
    (r.1, ⟨some handle, r.2⟩)

/-- `Elm327Transport.close`; the handle is let go whether or not closing it raises. -/
def closeTransport (serial : Serial ι δ) : Call Exn (Held ι δ) Unit := fun s =>
  match s.ser with
  | none => (.ok (), s)
  | some handle =>
    let r := serial.close handle s.device
    (r.1, ⟨none, r.2⟩)

/-! ## Requests -/

/-- `Elm327Transport.request`; addressing is left to the adapter. -/
def request (port : SerialPort δ) (payload : Bytes) (_functional : Bool) :
    Call Exn (Option δ) (List EcuResponse) :=
  whenOpen do
    let raw ← sendLine port (Hex.ofBytes payload)
    Call.ofExcept (parseElmResponse raw)

/-- `Elm327Transport.receive`: one more block, and nothing where reading it raises. -/
def receive (port : SerialPort δ) : Call Exn (Option δ) (List EcuResponse) :=
  whenOpen fun d =>
    match port.readUntil d with
    | (.error _, d') => (.ok [], d')
    | (.ok data, d') => (parseElmResponse (decodeAscii data), d')

/-- `Elm327Transport` as a transport. -/
def transport (port : SerialPort δ) : Transport (Option δ) where
  request := request port
  receive := receive port

end AutoDiag.Elm327

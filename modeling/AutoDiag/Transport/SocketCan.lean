import AutoDiag.Transport.Base

/-!
# The SocketCAN backend

The kernel does the ISO-TP framing: a socket sends and receives whole messages.
`select` says whether a message can be read before the timeout.
-/

namespace AutoDiag.SocketCan

/-- `OBD_ECU_RESPONSE_BASE`. -/
def obdEcuResponseBase : Nat := 0x7E8

/-- The ISO-TP socket, as far as the transport uses it; `String` is the text of an `OSError`. -/
structure Socket (δ : Type) where
  send : Bytes → Call String δ Unit
  /-- `select.select([sock], [], [], timeout)`: whether the socket is ready. -/
  select : Call Exn δ Bool
  recv : Call String δ Bytes

variable {δ : Type}

/-- The part `request` and `receive` share: one reassembled reply, if there is one in time. -/
def readReply (sock : Socket δ) (ecu : Nat) : Call Exn δ (List EcuResponse) := do
  let ready ← sock.select
  if ready = false then
    return [] -- no answer: not an error
  else
    let data ← sock.recv.mapError fun text => .transportError ("ISO-TP recv failed: " ++ text)
    return if data = [] then [] else [⟨obdEcuResponseBase + ecu, data⟩]

/-- `SocketCanTransport.request`. -/
def request (sock : Socket δ) (ecu : Nat) (payload : Bytes) (_functional : Bool) :
    Call Exn (Option δ) (List EcuResponse) :=
  whenOpen do
    (sock.send payload).mapError fun text => .transportError ("ISO-TP send failed: " ++ text)
    readReply sock ecu

/-- `SocketCanTransport.receive`. -/
def receive (sock : Socket δ) (ecu : Nat) : Call Exn (Option δ) (List EcuResponse) :=
  whenOpen (readReply sock ecu)

/-- `SocketCanTransport` as a transport to ECU number `ecu`. -/
def transport (sock : Socket δ) (ecu : Nat) : Transport (Option δ) where
  request := request sock ecu
  receive := receive sock ecu

end AutoDiag.SocketCan

import AutoDiag.Lib.Runs
import AutoDiag.Simulator.EcuSim
import AutoDiag.Transport.SocketCan

/-!
# The simulated ECU at work

The socket and the thread of `simulator/ecu_sim.py`. The thread takes a request from the
ECU's socket and sends its answer; the tester and the owner of the ECU act in between,
whenever they like. The kernel keeps the messages of either direction in their order.

`start` of an ECU that still has its socket is not part of the model, nor is a `stop` whose
`join` gives up on the thread.
-/

namespace AutoDiag.Serve

/-- Where the thread is in `_serve`. -/
inductive Thread where
  /-- There is no thread, or it has come to its end. -/
  | ended
  /-- At the head of the loop. -/
  | polling
  /-- In `select`. -/
  | selecting
  /-- Behind a `select` that found the socket ready. -/
  | ready
  /-- Behind `_handle`, with an answer to send. -/
  | answering (resp : Bytes)
  deriving DecidableEq

/-- Where the thread goes with a request it has taken. -/
def Thread.handling (ecu : SimulatedEcu) (req : Bytes) : Thread :=
  if req = [] then .polling
  else
    match ecu.handle req with
    | .ok resp => .answering resp
    | .error _ => .ended -- nothing in the thread catches it

/-- The ECU and the two sockets. -/
structure System where
  /-- `_sock` is there. -/
  isOpen : Bool
  /-- `_stop`. -/
  stopping : Bool
  thread : Thread
  /-- What waits in the ECU's socket. -/
  toEcu : List Bytes
  /-- What waits in the tester's socket. -/
  toTester : List Bytes
  /-- Every request that has come to the ECU's socket; nothing reads it. -/
  asked : List Bytes
  /-- Every answer that the tester has taken; nothing reads it. -/
  taken : List Bytes

inductive Move where
  /-- The tester sends a request, or takes an answer. -/
  | ask (payload : Bytes)
  | take
  /-- The thread goes on; a call of its socket may fail instead. -/
  | check
  | select
  | timeout
  | recv
  | recvFails
  | send
  | sendFails
  /-- The owner calls `start`, or `stop`, which sets the flag first. -/
  | start
  | requestStop
  | close

namespace System

/-- Before `start`. -/
def fresh : System := ⟨false, false, .ended, [], [], [], []⟩

/-- One move; one that cannot be made changes nothing. -/
def step (ecu : SimulatedEcu) (s : System) : Move → System
  | .ask payload =>
    if s.isOpen then
      { s with toEcu := s.toEcu ++ [payload], asked := s.asked ++ [payload] }
    else s
  | .take =>
    match s.toTester with
    | [] => s
    | resp :: rest => { s with toTester := rest, taken := s.taken ++ [resp] }
  | .check =>
    if s.thread = .polling then
      { s with thread := if s.stopping then .ended else .selecting }
    else s
  | .select =>
    if s.thread = .selecting then
      if s.isOpen then
        if s.toEcu = [] then s else { s with thread := .ready }
      else { s with thread := .ended } -- raises without a socket
    else s
  | .timeout =>
    if s.thread = .selecting ∧ s.toEcu = [] then { s with thread := .polling } else s
  | .recv =>
    if s.thread = .ready then
      if s.isOpen then
        match s.toEcu with
        | [] => s
        | req :: rest => { s with toEcu := rest, thread := .handling ecu req }
      else { s with thread := .ended }
    else s
  | .recvFails => if s.thread = .ready then { s with thread := .ended } else s
  | .send =>
    match s.thread with
    | .answering resp =>
      if s.isOpen then { s with toTester := s.toTester ++ [resp], thread := .polling }
      else { s with thread := .ended }
    | _ => s
  | .sendFails =>
    match s.thread with
    | .answering _ => { s with thread := .ended }
    | _ => s
  | .start =>
    if !s.isOpen && s.thread = .ended then { s with isOpen := true, thread := .polling } else s
  | .requestStop => { s with stopping := true }
  -- the messages that nobody has read are gone
  | .close => if s.stopping then { s with isOpen := false, toEcu := [] } else s

end System

/-! ## The tester's end -/

/-- A tester on the bus with the ECU. -/
structure Bench where
  system : System
  /-- What the thread and the owner do while the tester waits, for every time it waits. -/
  turns : Nat → List Move
  waits : Nat

def Move.byTester : Move → Bool
  | .ask _ | .take => true
  | _ => false

/-- The tester's socket; its own calls do not fail. -/
def socket (ecu : SimulatedEcu) : SocketCan.Socket Bench where
  send payload := fun b => (.ok (), { b with system := b.system.step ecu (.ask payload) })
  select := fun b =>
    let s := Runs.after (System.step ecu) b.system ((b.turns b.waits).filter (!·.byTester))
    (.ok (decide (s.toTester ≠ [])), { b with system := s, waits := b.waits + 1 })
  recv := fun b =>
    match b.system.toTester with
    | [] => (.error "timed out", b)
    | resp :: _ => (.ok resp, { b with system := b.system.step ecu .take })

end AutoDiag.Serve

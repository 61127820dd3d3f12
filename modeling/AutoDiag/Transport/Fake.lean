import AutoDiag.Transport.Base

/-!
# The in-memory backend

What the tests run the clients over. The responder of a request is a table of
values or a function; a table's first response is delivered by `request` and the
rest wait for `receive`, one at a time.
-/

namespace AutoDiag.Fake

/-- What a table may hold for a request. -/
inductive Value where
  | none
  | response (r : EcuResponse)
  | bytes (data : Bytes)
  | items (values : List Value)

/-- `Responder`. -/
inductive Responder where
  | mapping (get : Bytes → Value)
  | function (call : Bytes → List EcuResponse)

/-- A `FakeTransport` object, without the responder it was built from. -/
structure State where
  isOpen : Bool
  sent : List Bytes
  followups : List EcuResponse
  deriving DecidableEq

mutual

/-- `_as_responses`. -/
def asResponses : Value → List EcuResponse
  | .none => []
  | .response r => [r]
  | .bytes data => [⟨0x7E8, data⟩]
  | .items values => asResponsesOfItems values

/-- The loop over the items of a value. -/
def asResponsesOfItems : List Value → List EcuResponse
  | [] => []
  | item :: values => asResponses item ++ asResponsesOfItems values

end

/-- `FakeTransport.request`. -/
def request (responder : Responder) (payload : Bytes) (_functional : Bool) :
    Call Exn State (List EcuResponse) := fun s =>
  if s.isOpen = false then
    (.error (.transportError "transport not open — call open() first"), s)
  else
    let s : State := { s with sent := s.sent ++ [payload], followups := [] }
    match responder with
    | .function call => (.ok (call payload), s)
    | .mapping get =>
      let responses := asResponses (get payload)
      if 1 < responses.length then
        (.ok (responses.take 1), { s with followups := responses.drop 1 })
      else (.ok responses, s)

/-- `FakeTransport.receive`. -/
def receive : Call Exn State (List EcuResponse) := fun s =>
  match s.followups with
  | [] => (.ok [], s)
  | r :: followups => (.ok [r], { s with followups := followups })

/-- `FakeTransport` as a transport. -/
def transport (responder : Responder) : Transport State where
  request := request responder
  receive := receive

@[simp] theorem asResponsesOfItems_bytes (messages : List Bytes) :
    asResponsesOfItems (messages.map .bytes) = messages.map fun m => ⟨0x7E8, m⟩ := by
  induction messages with
  | nil => rfl
  | cons m messages ih => rw [List.map_cons, asResponsesOfItems, ih]; rfl

/-- **A request over a table of messages delivers the first and keeps the rest.** -/
theorem request_messages {get : Bytes → Value} {payload m : Bytes} {messages : List Bytes}
    (hget : get payload = .items ((m :: messages).map .bytes)) (functional : Bool) {s : State}
    (hopen : s.isOpen = true) :
    request (.mapping get) payload functional s = (.ok [⟨0x7E8, m⟩],
      { s with sent := s.sent ++ [payload], followups := messages.map fun m => ⟨0x7E8, m⟩ }) := by
  have has : asResponses (get payload) = (m :: messages).map fun m => ⟨0x7E8, m⟩ := by
    rw [hget, asResponses, asResponsesOfItems_bytes]
  unfold request
  rw [if_neg (by rw [hopen]; decide)]
  dsimp only
  rw [has]
  cases messages with
  | nil => rfl
  | cons m' messages => rfl

end AutoDiag.Fake

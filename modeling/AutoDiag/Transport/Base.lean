import AutoDiag.Lib.Call
import AutoDiag.Python.Builtins

/-!
# The transport interface

A backend is a state and two operations on it. What a backend answers is not
constrained here: a theorem about a client that quantifies over `Transport σ`
quantifies over every backend and every behaviour of the ECU behind it.

The timeouts a caller passes are left to the backend's own state, which decides
when a reply counts as missing.
-/

namespace AutoDiag

/-- One ECU's reply to a request. -/
structure EcuResponse where
  source : Nat
  data : Bytes
  deriving DecidableEq, Repr

/-- A backend-neutral request/response channel to a vehicle. -/
structure Transport (σ : Type) where
  /-- Send one request and collect responses. -/
  request : Bytes → Bool → Call Exn σ (List EcuResponse)
  /-- Read a further response without sending anything. -/
  receive : Call Exn σ (List EcuResponse)

/-- Run on the device of an open transport; `none` is one that is not open. -/
def whenOpen {δ α : Type} (x : Call Exn δ α) : Call Exn (Option δ) α
  | none => (.error (.transportError "transport not open — call open() first"), none)
  | some d => let r := x d; (r.1, some r.2)

/-! ## Watching a client at work -/

/-- What passed between a client and its transport. -/
inductive Exchange where
  | sent (payload : Bytes)
  | delivered (responses : List EcuResponse)
  deriving DecidableEq, Repr

/-- What a delivery leaves in the log; a transport that raised delivered nothing. -/
def delivery : Except Exn (List EcuResponse) → List Exchange
  | .ok responses => [.delivered responses]
  | .error _ => []

/-- The same transport, with a log of the traffic beside its state. -/
def Transport.logged {σ : Type} (t : Transport σ) : Transport (σ × List Exchange) where
  request payload functional := fun (s, log) =>
    let r := t.request payload functional s
    (r.1, r.2, log ++ .sent payload :: delivery r.1)
  receive := fun (s, log) =>
    let r := t.receive s
    (r.1, r.2, log ++ delivery r.1)

/-- What was delivered, without the requests. -/
def Exchange.delivered? : Exchange → Option (List EcuResponse)
  | .sent _ => none
  | .delivered responses => some responses

/-- The first response with data in it. -/
def firstData (responses : List EcuResponse) : Option Bytes :=
  (responses.find? fun r => r.data ≠ []).map EcuResponse.data

/-- The message a series of deliveries ends on. -/
def lastReply (ds : List (List EcuResponse)) : Option Bytes := ds.getLast?.bind firstData

/-- Every request of a log with the message its exchange ended on. -/
def answers : List Exchange → List (Bytes × Option Bytes)
  | [] => []
  | .sent payload :: log =>
    (payload, lastReply ((log.takeWhile fun x => x.delivered?.isSome).filterMap
      Exchange.delivered?)) :: answers log
  | .delivered _ :: log => answers log

theorem answers_delivered (ds : List (List EcuResponse)) (log : List Exchange) :
    answers (ds.map .delivered ++ log) = answers log := by
  induction ds with
  | nil => rfl
  | cons d ds ih => exact ih

theorem takeWhile_delivered (ds : List (List EcuResponse)) {log : List Exchange}
    (h : ∀ x ∈ log.head?, x.delivered? = none) :
    ((ds.map Exchange.delivered ++ log).takeWhile fun x => x.delivered?.isSome).filterMap
      Exchange.delivered? = ds := by
  induction ds with
  | nil =>
    cases log with
    | nil => rfl
    | cons x log => simp [h x rfl]
  | cons d ds ih => simpa [Exchange.delivered?] using ih

/-- **One exchange**: a request and the deliveries up to the next request. -/
theorem answers_sent (payload : Bytes) (ds : List (List EcuResponse)) {log : List Exchange}
    (h : ∀ x ∈ log.head?, x.delivered? = none) :
    answers (.sent payload :: ds.map .delivered ++ log)
      = (payload, lastReply ds) :: answers log := by
  rw [List.cons_append, answers, takeWhile_delivered ds h, answers_delivered]

theorem answers_one (payload : Bytes) (ds : List (List EcuResponse)) :
    answers (.sent payload :: ds.map .delivered) = [(payload, lastReply ds)] := by
  have h := @answers_sent payload ds [] (by simp)
  rwa [List.append_nil] at h

end AutoDiag

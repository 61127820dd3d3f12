import AutoDiag.Proof.Exchange
import AutoDiag.Protocol.Kwp2000
import AutoDiag.Protocol.Uds

/-!
# Whose record a read returns

A request for an item names it by an identifier, and the ECU's positive reply
repeats the identifier before the record. The clients take the first byte of the
reply for the service and throw the repeated identifier away unread, so the
record returned is the requested one exactly when the ECU kept to the item.
-/

namespace AutoDiag.Proof

open Client

variable {σ : Type}

/-- A service that addresses an item by an identifier, with its arguments. -/
inductive ItemService where
  | readDataByIdentifier (did : Int)
  | readDataByCommonIdentifier (did : Int)
  | readDataByLocalIdentifier (lid : Int)
  | readEcuIdentification (option : Int)
  | udsRequestSeed (level : Int)
  | kwpRequestSeed (level : Int)
  | startRoutineByLocalIdentifier (routine : Int) (data : Bytes)
  | transferData (blockSequenceCounter : Int) (data : Bytes)

namespace ItemService

def client (t : Transport σ) (maxPending : Nat) : ItemService → Client σ
  | readDataByIdentifier _ | udsRequestSeed _ | transferData _ _ => Uds.client t maxPending
  | readDataByCommonIdentifier _ | readDataByLocalIdentifier _ | readEcuIdentification _
  | kwpRequestSeed _ | startRoutineByLocalIdentifier _ _ => Kwp2000.client t maxPending

def call (c : Client σ) : ItemService → Call Exn σ Bytes
  | readDataByIdentifier did => Uds.readDataByIdentifier c did
  | readDataByCommonIdentifier did => Kwp2000.readDataByCommonIdentifier c did
  | readDataByLocalIdentifier lid => Kwp2000.readDataByLocalIdentifier c lid
  | readEcuIdentification option => Kwp2000.readEcuIdentification c option
  | udsRequestSeed level => Uds.securityAccessRequestSeed c level
  | kwpRequestSeed level => Kwp2000.securityAccessRequestSeed c level
  | startRoutineByLocalIdentifier routine data =>
    Kwp2000.startRoutineByLocalIdentifier c routine data
  | transferData bsc data => Uds.transferData c bsc data

def sid : ItemService → UInt8
  | readDataByIdentifier _ | readDataByCommonIdentifier _ => 0x22
  | readDataByLocalIdentifier _ => 0x21
  | readEcuIdentification _ => 0x1A
  | udsRequestSeed _ | kwpRequestSeed _ => 0x27
  | startRoutineByLocalIdentifier _ _ => 0x31
  | transferData _ _ => 0x36

/-- The identifier, as it stands in the request after the service id. -/
def item : ItemService → Bytes
  | readDataByIdentifier did | readDataByCommonIdentifier did =>
    [Py.lowByte (did >>> (8 : Nat)), Py.lowByte did]
  | readDataByLocalIdentifier lid => [Py.lowByte lid]
  | readEcuIdentification option => [Py.lowByte option]
  | udsRequestSeed level | kwpRequestSeed level => [Py.lowByte level]
  | startRoutineByLocalIdentifier routine _ => [Py.lowByte routine]
  | transferData bsc _ => [Py.lowByte bsc]

/-- What follows the identifier in the request. -/
def args : ItemService → Bytes
  | startRoutineByLocalIdentifier _ data | transferData _ data => data
  | _ => []

def payload (r : ItemService) : Bytes := r.sid :: (r.item ++ r.args)

/-- The positive reply's first bytes, when it is about the requested item. -/
def echo (r : ItemService) : Bytes := (r.sid + 0x40) :: r.item

/-- `bytes([..])` takes the identifier. -/
def InRange : ItemService → Prop
  | readEcuIdentification x | udsRequestSeed x | kwpRequestSeed x => 0 ≤ x ∧ x < 256
  | _ => True

/-- What the method makes of the reply after its service id. -/
def strip : ItemService → Bytes → Bytes
  | readDataByIdentifier _, data | readDataByCommonIdentifier _, data =>
    if 2 ≤ data.length then data.drop 2 else []
  | transferData _ _, data => data
  | _, data => data.drop 1

theorem sid_ne (r : ItemService) : r.sid + 0x40 ≠ 0x7F := by
  unfold sid
  split <;> decide

/-- **Every item service sends its identifier and post-processes the answer.** -/
theorem call_eq (r : ItemService) (c : Client σ) (h : r.InRange) :
    r.call c = do
      let data ← c.send r.sid (r.item ++ r.args) true
      return r.strip data := by
  cases r with
  | readDataByIdentifier did => rfl
  | readDataByCommonIdentifier did => rfl
  | readDataByLocalIdentifier lid => rfl
  | readEcuIdentification option =>
      rw [call, Kwp2000.readEcuIdentification, Py.toByte_of_range h]
      rfl
  | udsRequestSeed level => exact Uds.securityAccessRequestSeed_of_range c h
  | kwpRequestSeed level =>
      rw [call, Kwp2000.securityAccessRequestSeed, Py.toByte_of_range h]
      rfl
  | startRoutineByLocalIdentifier routine data => rfl
  | transferData bsc data => exact (Call.bind_pure _).symm

/-- An identifier that is no byte is refused before anything is sent. -/
theorem call_out_of_range (r : ItemService) (c : Client σ) (h : ¬ r.InRange) :
    ∃ e, r.call c = Call.raise e := by
  cases r with
  | readEcuIdentification option =>
      rw [call, Kwp2000.readEcuIdentification, Py.toByte_of_not_range h]
      exact ⟨_, rfl⟩
  | udsRequestSeed level => exact ⟨_, Uds.securityAccessRequestSeed_of_not_range c h⟩
  | kwpRequestSeed level =>
      rw [call, Kwp2000.securityAccessRequestSeed, Py.toByte_of_not_range h]
      exact ⟨_, rfl⟩
  | _ => exact absurd trivial h

theorem client_logged (r : ItemService) (t : Transport σ) (maxPending : Nat) :
    r.client t.logged maxPending = logged (r.client t maxPending) := by
  cases r <;> rfl

end ItemService

/-- One call over a logged transport: the outcome, and the exchanges it consisted of. -/
def runItem (r : ItemService) (t : Transport σ) (maxPending : Nat) (s : σ) :
    Except Exn Bytes × List (Bytes × Option Bytes) :=
  let run := r.call (r.client t.logged maxPending) (s, [])
  (run.1, answers run.2.2)

/-- The call returns a record only from a reply that repeats the identifier. -/
def EchoHeld (r : ItemService) (run : Except Exn Bytes × List (Bytes × Option Bytes)) : Prop :=
  ∀ record, run.1 = .ok record → ∃ reply, run.2 = [(r.payload, some reply)] ∧ r.echo <+: reply

/-- The ECU's final reply, if it is a positive one of the service, is about the requested item. -/
def KeepsToItem (r : ItemService) (run : List (Bytes × Option Bytes)) : Prop :=
  ∀ reply, (r.payload, some reply) ∈ run → reply.head? = some (r.sid + 0x40) → r.echo <+: reply

/-- **A call with a byte for its identifier is one exchange**, and a positive reply ends it. -/
theorem runItem_of_range (r : ItemService) (t : Transport σ) (maxPending : Nat) (s : σ)
    (h : r.InRange) :
    ∃ res last, runItem r t maxPending s = (Except.map r.strip res, [(r.payload, last)])
      ∧ ∀ rest, res = .ok rest ↔ last = some ((r.sid + 0x40) :: rest) := by
  obtain ⟨res, s', ds, hsend, hres⟩ := send_logged (r.client t maxPending) r.sid_ne
    (r.item ++ r.args) s []
  refine ⟨res, lastReply ds, ?_, hres⟩
  unfold runItem
  rw [ItemService.client_logged, ItemService.call_eq r _ h]
  have hans := answers_one r.payload ds
  cases res with
  | error e =>
    rw [Call.bind_run_error hsend]
    exact Prod.ext rfl hans
  | ok rest =>
    rw [Call.bind_run_ok hsend]
    exact Prod.ext rfl hans

theorem runItem_of_not_range (r : ItemService) (t : Transport σ) (maxPending : Nat) (s : σ)
    (h : ¬ r.InRange) : ∃ e, runItem r t maxPending s = (.error e, []) := by
  obtain ⟨e, he⟩ := ItemService.call_out_of_range r (r.client t.logged maxPending) h
  refine ⟨e, ?_⟩
  unfold runItem
  rw [he]
  rfl

/--
**A read returns the requested item exactly when the ECU kept to the item**: the
client itself rejects no positive reply of the service, whatever item it is about.
-/
theorem runItem_echo_iff (r : ItemService) (t : Transport σ) (maxPending : Nat) (s : σ) :
    EchoHeld r (runItem r t maxPending s) ↔ KeepsToItem r (runItem r t maxPending s).2 := by
  by_cases hr : r.InRange
  · obtain ⟨res, last, hrun, hres⟩ := runItem_of_range r t maxPending s hr
    rw [hrun]
    constructor
    · intro h reply hmem hpos
      obtain ⟨-, rfl⟩ := Prod.mk.inj (List.mem_singleton.mp hmem)
      obtain ⟨rest, rfl⟩ : ∃ rest, reply = (r.sid + 0x40) :: rest := by
        cases reply with
        | nil => simp at hpos
        | cons b rest => exact ⟨rest, by rw [Option.some.inj hpos]⟩
      -- a positive reply is returned, so the reply it was taken from is this one
      obtain ⟨reply', hone, hecho⟩ := h (r.strip rest) (by rw [(hres rest).mpr rfl]; rfl)
      simp only [List.cons.injEq, Prod.mk.injEq, Option.some.injEq, true_and, and_true] at hone
      rw [hone]
      exact hecho
    · intro h record hrec
      cases res with
      | error e => simp [Except.map] at hrec
      | ok rest =>
        have hlast := (hres rest).mp rfl
        refine ⟨(r.sid + 0x40) :: rest, by rw [hlast], h _ ?_ rfl⟩
        rw [hlast]
        exact List.mem_singleton.mpr rfl
  · -- nothing was sent, so nothing is returned and no reply is about another item
    obtain ⟨e, hrun⟩ := runItem_of_not_range r t maxPending s hr
    rw [hrun]
    exact ⟨fun _ reply hmem => absurd hmem (by simp), fun _ record h => absurd h (by simp)⟩

/-- A transport that answers every request by the same message. -/
def answering (reply : Bytes) : Transport Unit where
  request _ _ := pure [⟨0x7E8, reply⟩]
  receive := pure []

/-- **A record of another item is returned as the requested one.** -/
theorem runItem_returns_stray :
    ¬ ∀ (r : ItemService) (σ : Type) (t : Transport σ) (maxPending : Nat) (s : σ),
      EchoHeld r (runItem r t maxPending s) := by
  intro h
  obtain ⟨reply, hone, hecho⟩ := h (.readDataByIdentifier 0xF190) Unit
    (answering [0x62, 0xF1, 0x8C, 0x31]) 10 () [0x31] (by decide)
  have hans : (runItem (.readDataByIdentifier 0xF190) (answering [0x62, 0xF1, 0x8C, 0x31])
      10 ()).2 = [([0x22, 0xF1, 0x90], some [0x62, 0xF1, 0x8C, 0x31])] := by
    decide
  rw [hans] at hone
  simp only [List.cons.injEq, Prod.mk.injEq, Option.some.injEq, and_true] at hone
  rw [← hone.2] at hecho
  revert hecho
  decide

end AutoDiag.Proof

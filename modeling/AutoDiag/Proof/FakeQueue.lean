import AutoDiag.Transport.Fake

/-!
# What the in-memory transport delivers

The documentation gives each kind of value in a table its own delivery. The code
flattens all of them into one list of responses and delivers its first item, so a
list of replies of several ECUs is split as a list of messages is
(`results_documented_iff`).
-/

namespace AutoDiag.Proof

open Fake

/-- What the documentation lets a table hold for a request, or nothing at all. -/
inductive TableValue where
  | absent
  | bytes (data : Bytes)
  | messages (items : List Bytes)
  | responses (items : List EcuResponse)

namespace TableValue

/-- The value, as it is stored. -/
def stored : TableValue → Fake.Value
  | absent => .none
  | bytes data => .bytes data
  | messages items => .items (items.map .bytes)
  | responses items => .items (items.map .response)

/-- What the request is to return. -/
def atOnce : TableValue → List EcuResponse
  | absent => []
  | bytes data => [⟨0x7E8, data⟩]
  | messages items => (items.take 1).map fun m => ⟨0x7E8, m⟩
  | responses items => items

/-- What is to wait for `receive`, in order. -/
def following : TableValue → List EcuResponse
  | messages items => (items.drop 1).map fun m => ⟨0x7E8, m⟩
  | _ => []

/-- The replies of several ECUs. -/
def IsSplit (v : TableValue) : Prop := ∃ items, v = responses items ∧ 2 ≤ items.length

theorem asResponses_messages (items : List Bytes) :
    asResponses (messages items).stored = items.map fun m => ⟨0x7E8, m⟩ := by
  rw [stored, asResponses, asResponsesOfItems_bytes]

theorem asResponses_responses (items : List EcuResponse) :
    asResponses (responses items).stored = items := by
  rw [stored, asResponses]
  induction items with
  | nil => rfl
  | cons r items ih =>
    rw [List.map_cons, asResponsesOfItems, ih]
    rfl

end TableValue

/-! ## Runs -/

/-- A call of an open transport. -/
inductive FakeCall where
  | request (payload : Bytes) (functional : Bool)
  | receive

/-- What one call after another returns. -/
def results {σ : Type} (t : Transport σ) : List FakeCall → σ → List (Except Exn (List EcuResponse))
  | [], _ => []
  | .request payload functional :: calls, s =>
    (t.request payload functional s).1 :: results t calls (t.request payload functional s).2
  | .receive :: calls, s => (t.receive s).1 :: results t calls (t.receive s).2

/-- The table of a transport, as it is stored. -/
def tableOf (get : Bytes → TableValue) : Transport Fake.State :=
  Fake.transport (.mapping fun payload => (get payload).stored)

/--
What the documentation says of every call: a request returns what its value has at
once, and the receive after `j` others returns the item `j` of what follows it.
-/
def documented (get : Bytes → TableValue) (waiting : List EcuResponse) (j : Nat) :
    List FakeCall → List (List EcuResponse)
  | [] => []
  | .request payload _ :: calls =>
    (get payload).atOnce :: documented get (get payload).following 0 calls
  | .receive :: calls => (waiting[j]?).toList :: documented get waiting (j + 1) calls

/-- So the receives that follow a request are to deliver its items once each, in order. -/
theorem documented_receives (get : Bytes → TableValue) (waiting : List EcuResponse) (j n : Nat) :
    (documented get waiting j (List.replicate n .receive)).flatten = (waiting.drop j).take n := by
  induction n generalizing j with
  | zero => rw [List.take_zero]; rfl
  | succ n ih =>
    rw [List.replicate_succ, documented, List.flatten_cons, ih]
    by_cases hj : j < waiting.length
    · rw [List.getElem?_eq_getElem hj, List.drop_eq_getElem_cons hj, List.take_succ_cons]
      rfl
    · rw [List.getElem?_eq_none (by omega), List.drop_eq_nil_of_le (by omega),
        List.drop_eq_nil_of_le (by omega), List.take_nil, List.take_nil]
      rfl

/-! ## One call -/

/-- The transport is open and has delivered `j` of the items that follow the last request. -/
structure Waits (s : Fake.State) (waiting : List EcuResponse) (j : Nat) : Prop where
  isOpen : s.isOpen = true
  followups : s.followups = waiting.drop j

/-- A receive takes the next item, or finds none. -/
theorem receive_waits (get : Bytes → TableValue) {s : Fake.State} {waiting : List EcuResponse}
    {j : Nat} (h : Waits s waiting j) :
    ∃ s', (tableOf get).receive s = (.ok (waiting[j]?).toList, s') ∧ Waits s' waiting (j + 1) := by
  show ∃ s', Fake.receive s = _ ∧ _
  rw [Fake.receive, h.followups]
  cases hj : waiting[j]? with
  | none =>
    have hle : waiting.length ≤ j := List.getElem?_eq_none_iff.mp hj
    rw [List.drop_eq_nil_of_le hle]
    refine ⟨s, rfl, h.isOpen, ?_⟩
    rw [h.followups, List.drop_eq_nil_of_le hle, List.drop_eq_nil_of_le (by omega)]
  | some r =>
    obtain ⟨hlt, hr⟩ := List.getElem?_eq_some_iff.mp hj
    rw [List.drop_eq_getElem_cons hlt, hr]
    exact ⟨_, rfl, h.isOpen, rfl⟩

/-- A request delivers the first of its responses, and what follows them waits. -/
theorem request_waits (get : Bytes → TableValue) (payload : Bytes) (functional : Bool)
    {s : Fake.State} (hopen : s.isOpen = true) :
    ∃ s', (tableOf get).request payload functional s
        = (.ok ((asResponses (get payload).stored).take 1), s')
      ∧ Waits s' ((asResponses (get payload).stored).drop 1) 0 := by
  have hrun : (tableOf get).request payload functional s
      = Fake.request (.mapping fun payload => (get payload).stored) payload functional s := rfl
  rw [hrun, Fake.request, if_neg (by rw [hopen]; decide)]
  dsimp only
  split
  · exact ⟨_, rfl, hopen, rfl⟩
  · rename_i hlen
    refine ⟨{ s with sent := s.sent ++ [payload], followups := [] },
      by rw [List.take_of_length_le (Nat.not_lt.mp hlen)], hopen, ?_⟩
    exact (List.drop_eq_nil_of_le (Nat.not_lt.mp hlen)).symm

/-- What is delivered at once is what should be, but for the replies of several ECUs. -/
theorem atOnce_iff (v : TableValue) :
    (asResponses v.stored).take 1 = v.atOnce ↔ ¬ v.IsSplit := by
  cases v with
  | absent => exact iff_of_true rfl (by rintro ⟨_, h, _⟩; cases h)
  | bytes data => exact iff_of_true rfl (by rintro ⟨_, h, _⟩; cases h)
  | messages items =>
    refine iff_of_true ?_ (by rintro ⟨_, h, _⟩; cases h)
    rw [TableValue.asResponses_messages, ← List.map_take]
    rfl
  | responses items =>
    rw [TableValue.asResponses_responses, TableValue.atOnce, List.take_eq_self_iff]
    constructor
    · rintro hlen ⟨_, h, hsplit⟩
      cases h
      omega
    · intro h
      by_contra hlen
      exact h ⟨items, rfl, by omega⟩

theorem following_eq {v : TableValue} (h : ¬ v.IsSplit) :
    (asResponses v.stored).drop 1 = v.following := by
  cases v with
  | absent => rfl
  | bytes data => rfl
  | messages items =>
    rw [TableValue.asResponses_messages, ← List.map_drop]
    rfl
  | responses items =>
    have hlen : items.length ≤ 1 := by
      by_contra hlen
      exact h ⟨items, rfl, by omega⟩
    rw [TableValue.asResponses_responses, List.drop_eq_nil_of_le hlen]
    rfl

/-! ## All calls -/

/-- The requests of a run, none of which is answered by the replies of several ECUs. -/
def NoneSplit (get : Bytes → TableValue) (calls : List FakeCall) : Prop :=
  ∀ payload functional, .request payload functional ∈ calls → ¬ (get payload).IsSplit

theorem noneSplit_cons {get : Bytes → TableValue} {call : FakeCall} {calls : List FakeCall} :
    NoneSplit get (call :: calls)
      ↔ (∀ payload functional, call = .request payload functional → ¬ (get payload).IsSplit)
        ∧ NoneSplit get calls := by
  constructor
  · intro h
    exact ⟨fun p f hcall => h p f (hcall ▸ List.mem_cons_self ..),
      fun p f hmem => h p f (List.mem_cons_of_mem _ hmem)⟩
  · rintro ⟨hfirst, hrest⟩ p f hmem
    rcases List.mem_cons.mp hmem with hcall | hmem
    · exact hfirst p f hcall.symm
    · exact hrest p f hmem

theorem results_waits (get : Bytes → TableValue) (calls : List FakeCall) {s : Fake.State}
    {waiting : List EcuResponse} {j : Nat} (h : Waits s waiting j) :
    results (tableOf get) calls s = (documented get waiting j calls).map .ok
      ↔ NoneSplit get calls := by
  induction calls generalizing s waiting j with
  | nil => exact iff_of_true rfl fun _ _ hmem => absurd hmem List.not_mem_nil
  | cons call calls ih =>
    rw [noneSplit_cons]
    cases call with
    | receive =>
      obtain ⟨s', hrun, hwaits⟩ := receive_waits get h
      rw [results, documented, hrun, List.map_cons, List.cons.injEq, ih hwaits]
      exact and_congr_left fun _ => iff_of_true rfl fun _ _ hcall => by cases hcall
    | request payload functional =>
      obtain ⟨s', hrun, hwaits⟩ := request_waits get payload functional h.isOpen
      rw [results, documented, hrun, List.map_cons, List.cons.injEq, Except.ok.injEq, atOnce_iff]
      have hfirst : (∀ p f, FakeCall.request payload functional = .request p f →
          ¬ (get p).IsSplit) ↔ ¬ (get payload).IsSplit := by
        constructor
        · exact fun hall => hall payload functional rfl
        · rintro hsplit p f ⟨⟩
          exact hsplit
      rw [hfirst]
      -- the rest runs on what follows this request, as long as it was not split
      refine and_congr_right fun hsplit => ih ?_
      rwa [following_eq hsplit] at hwaits

/--
**The in-memory transport delivers as documented exactly if no request of the run
is answered by the replies of several ECUs**: of these it returns the first alone.
-/
theorem results_documented_iff (get : Bytes → TableValue) (calls : List FakeCall) {s : Fake.State}
    (hopen : s.isOpen = true) :
    results (tableOf get) calls s = (documented get s.followups 0 calls).map .ok
      ↔ NoneSplit get calls :=
  results_waits get calls ⟨hopen, rfl⟩

/-- The replies of two ECUs to one request. -/
def twoReplies : List EcuResponse := [⟨0x7E8, [0x43, 0x00]⟩, ⟨0x7E9, [0x43, 0x00]⟩]

/-- Only the first of the two replies is returned. -/
theorem results_split :
    results (tableOf fun _ => .responses twoReplies) [.request [0x03] true] ⟨true, [], []⟩
        = [.ok [⟨0x7E8, [0x43, 0x00]⟩]]
      ∧ documented (fun _ => .responses twoReplies) [] 0 [.request [0x03] true]
        = [twoReplies] := by
  decide

/-- The first message of a list is returned, and the other one received. -/
theorem results_documented_messages :
    results (tableOf fun _ => .messages [[0x7F, 0x22, 0x78], [0x62, 0xF1, 0x90]])
        [.request [0x22, 0xF1, 0x90] false, .receive] ⟨true, [], []⟩
      = (documented (fun _ => .messages [[0x7F, 0x22, 0x78], [0x62, 0xF1, 0x90]]) [] 0
          [.request [0x22, 0xF1, 0x90] false, .receive]).map .ok := by
  refine (results_documented_iff _ _ rfl).mpr fun _ _ _ => ?_
  simp [TableValue.IsSplit]

end AutoDiag.Proof

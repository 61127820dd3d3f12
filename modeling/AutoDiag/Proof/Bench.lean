import AutoDiag.Proof.Answered
import AutoDiag.Proof.Seam
import AutoDiag.Proof.Traffic

/-!
# A session with the simulated ECU

However the thread of the ECU and the client take turns, and whichever of the client's
waits come to nothing, what the client gets are the ECU's answers to its requests in
their order (`bench_session`). Where every wait is long enough for the thread, the session
is one with `_handle` itself (`timely_session`).
-/

namespace AutoDiag.Proof

open Call Serve

/-! ## Invariants of a session -/

section Keeps

variable {σ : Type} {t : Transport σ} {I : σ → Prop}

/-- **What requests and receives keep, a session keeps.** -/
theorem session_keeps
    (hrequest : ∀ payload functional s, I s → I (t.request payload functional s).2)
    (hreceive : ∀ s, I s → I (t.receive s).2) (settings : Settings) (ops : List Operation) {s : σ}
    (h : I s) : I (Runs.after (fun s op => (Operation.answer settings t op s).2) s ops) := by
  have hchannel : SameChannel (fun s s' => s = s' ∧ I s) t t :=
    ⟨fun payload functional s _ h => by obtain ⟨rfl, hs⟩ := h; exact ⟨rfl, rfl, hrequest _ _ _ hs⟩,
      fun s _ h => by obtain ⟨rfl, hs⟩ := h; exact ⟨rfl, rfl, hreceive _ hs⟩⟩
  refine Runs.always (fun s op hs => ?_) ops h
  exact (Operation.alike hchannel settings op s s ⟨rfl, hs⟩).2.2

end Keeps

/-! ## The tester's socket -/

variable {ecu : SimulatedEcu}

/-- The bench after a wait. -/
def waited (ecu : SimulatedEcu) (b : Bench) : Bench :=
  { b with
    system := Runs.after (System.step ecu) b.system ((b.turns b.waits).filter (!·.byTester))
    waits := b.waits + 1 }

/-- What waits in the tester's socket, taken out of it. -/
def readOne (ecu : SimulatedEcu) (b : Bench) : List EcuResponse × Bench :=
  match b.system.toTester with
  | [] => ([], b)
  | resp :: _ => (if resp = [] then [] else [⟨0x7E8, resp⟩],
      { b with system := b.system.step ecu .take })

theorem readReply_bench (ecu : SimulatedEcu) (b : Bench) :
    SocketCan.readReply (socket ecu) 0 b
      = (.ok (readOne ecu (waited ecu b)).1, (readOne ecu (waited ecu b)).2) := by
  have hselect : (socket ecu).select b
      = (.ok (decide ((waited ecu b).system.toTester ≠ [])), waited ecu b) := rfl
  refine (bind_run_ok hselect).trans ?_
  cases hqueue : (waited ecu b).system.toTester with
  | nil =>
    rw [readOne, hqueue]
    rfl
  | cons resp rest =>
    have hrecv : (socket ecu).recv (waited ecu b)
        = (.ok resp, { waited ecu b with system := (waited ecu b).system.step ecu .take }) := by
      show (match (waited ecu b).system.toTester with | [] => _ | resp :: _ => _) = _
      rw [hqueue]
    rw [if_neg (by simp)]
    refine (bind_run_ok (mapError_run_ok _ hrecv)).trans ?_
    rw [readOne, hqueue]
    rfl

/-- The bench after a request has been sent. -/
def asking (ecu : SimulatedEcu) (b : Bench) (payload : Bytes) : Bench :=
  { b with system := b.system.step ecu (.ask payload) }

theorem request_bench (ecu : SimulatedEcu) (b : Bench) (payload : Bytes) (functional : Bool) :
    (SocketCan.transport (socket ecu) 0).request payload functional (some b)
      = (.ok (readOne ecu (waited ecu (asking ecu b payload))).1,
        some (readOne ecu (waited ecu (asking ecu b payload))).2) := by
  have hsend : (socket ecu).send payload b = (.ok (), asking ecu b payload) := rfl
  refine whenOpen_run ?_
  exact (bind_run_ok (mapError_run_ok _ hsend)).trans (readReply_bench ecu _)

theorem receive_bench (ecu : SimulatedEcu) (b : Bench) :
    (SocketCan.transport (socket ecu) 0).receive (some b)
      = (.ok (readOne ecu (waited ecu b)).1, some (readOne ecu (waited ecu b)).2) :=
  whenOpen_run (readReply_bench ecu b)

/-! ## Whatever the turns -/

/-- The messages that a client has been given, in order. -/
def given (log : List Exchange) : List Bytes :=
  (log.filterMap Exchange.delivered?).flatten.map EcuResponse.data

/-- The client has sent what the ECU was asked, which is all it has sent until somebody stops the
ECU, and has what was taken. -/
structure Matches (ecu : SimulatedEcu) (s : System) (log : List Exchange) : Prop where
  inOrder : InOrder ecu s
  asked : s.asked.Sublist (log.filterMap Exchange.sent?)
  unstopped : s.stopping = false → s.isOpen = true ∧ s.asked = log.filterMap Exchange.sent?
  taken : s.taken = given log

/-- The thread and the owner change neither what was asked nor what was taken. -/
theorem step_not_tester (ecu : SimulatedEcu) (s : System) {m : Move} (hm : m.byTester = false) :
    (s.step ecu m).asked = s.asked ∧ (s.step ecu m).taken = s.taken := by
  cases m with
  | ask payload => cases hm
  | take => cases hm
  | requestStop => exact ⟨rfl, rfl⟩
  | check | timeout | recvFails | sendFails | start | close =>
    rw [System.step]
    split <;> exact ⟨rfl, rfl⟩
  | send =>
    rw [System.step]
    split
    · split <;> exact ⟨rfl, rfl⟩
    · exact ⟨rfl, rfl⟩
  | select | recv =>
    rw [System.step]
    split
    · split
      · split <;> exact ⟨rfl, rfl⟩
      · exact ⟨rfl, rfl⟩
    · exact ⟨rfl, rfl⟩

/-- Nothing clears the flag of `stop`, and the socket stays open until it is set. -/
theorem step_unstopped (ecu : SimulatedEcu) (s : System) (m : Move) :
    (s.step ecu m).stopping = true
      ∨ (s.step ecu m).stopping = s.stopping ∧ (s.isOpen = true → (s.step ecu m).isOpen = true) := by
  cases m with
  | requestStop => exact .inl rfl
  | close =>
    rw [System.step]
    split
    · next hstop => exact .inl hstop
    · exact .inr ⟨rfl, id⟩
  | start =>
    rw [System.step]
    split
    · exact .inr ⟨rfl, fun _ => rfl⟩
    · exact .inr ⟨rfl, id⟩
  | ask | take | check | timeout | recvFails | sendFails =>
    rw [System.step]
    split <;> exact .inr ⟨rfl, id⟩
  | send =>
    rw [System.step]
    split
    · split <;> exact .inr ⟨rfl, id⟩
    · exact .inr ⟨rfl, id⟩
  | select | recv =>
    rw [System.step]
    split
    · split
      · split <;> exact .inr ⟨rfl, id⟩
      · exact .inr ⟨rfl, id⟩
    · exact .inr ⟨rfl, id⟩

/-- A socket that is open unless somebody stops the ECU is so after a move as well. -/
theorem unstopped_step {s : System} (h : s.stopping = false → s.isOpen = true) (m : Move) :
    (s.step ecu m).stopping = false → s.stopping = false ∧ (s.step ecu m).isOpen = true := by
  intro hgoes
  rcases step_unstopped ecu s m with hstop | ⟨hsame, hopen⟩
  · exact absurd hstop (by rw [hgoes]; decide)
  · rw [hsame] at hgoes
    exact ⟨hgoes, hopen (h hgoes)⟩

theorem waited_matches {b : Bench} {log : List Exchange} (h : Matches ecu b.system log) :
    Matches ecu (waited ecu b).system log := by
  have hkeep : ∀ s, ∀ m ∈ (b.turns b.waits).filter (!·.byTester),
      Matches ecu s log → Matches ecu (s.step ecu m) log := by
    intro s m hm h
    obtain ⟨hasked, htaken⟩ := step_not_tester ecu s (by simpa using (List.mem_filter.mp hm).2)
    refine ⟨step_inOrder s m h.inOrder, hasked ▸ h.asked, fun hgoes => ?_, htaken.trans h.taken⟩
    obtain ⟨hbefore, hopen⟩ := unstopped_step (fun hgoes => (h.unstopped hgoes).1) m hgoes
    exact ⟨hopen, hasked.trans (h.unstopped hbefore).2⟩
  exact Runs.always_of_mem hkeep h

/-- An answer has at least its first byte. -/
theorem handle_ne {req resp : Bytes} (h : Answers ecu req resp) : resp ≠ [] := by
  have hmode : ∀ b bytes, (.ok (b :: bytes) : Except Exn Bytes) = .ok resp → resp ≠ [] := by
    intro b bytes heq
    rw [← Except.ok.inj heq]
    exact List.cons_ne_nil b bytes
  rw [Answers, SimulatedEcu.handle] at h
  cases hreq : Py.index req 0 with
  | error e =>
    rw [hreq] at h
    cases h
  | ok mode =>
    rw [hreq, Raise.ok_bind] at h
    -- by the mode: each answer begins with a byte that names it
    split at h
    · cases hvin : Py.encodeAscii ecu.vin with
      | error e =>
        rw [hvin] at h
        cases h
      | ok vin =>
        rw [hvin] at h
        exact hmode _ _ h
    · split at h
      · cases hcount : Py.toArrayByte ecu.dtcs.length with
        | error e =>
          rw [hcount] at h
          cases h
        | ok count =>
          cases hbody : SimulatedEcu.encodeAll ecu.dtcs with
          | error e =>
            rw [hcount, hbody] at h
            cases h
          | ok body =>
            rw [hcount, hbody] at h
            exact hmode _ _ h
      · split at h
        · next pid _ _ =>
          have hcurrent : ∃ b bytes, SimulatedEcu.currentData mode pid = b :: bytes := by
            rw [SimulatedEcu.currentData]
            split
            · exact ⟨_, _, rfl⟩
            · split
              · exact ⟨_, _, rfl⟩
              · exact ⟨_, _, rfl⟩
          obtain ⟨b, bytes, hb⟩ := hcurrent
          rw [hb] at h
          exact hmode _ _ h
        · exact hmode _ _ h

theorem given_delivered (log : List Exchange) (rs : List EcuResponse) :
    given (log ++ [.delivered rs]) = given log ++ rs.map EcuResponse.data := by
  rw [given, List.filterMap_append]
  simp [given, Exchange.delivered?]

theorem answers_ne {reqs resps : List Bytes} (h : List.Forall₂ (Answers ecu) reqs resps) :
    ∀ resp ∈ resps, resp ≠ [] := by
  induction h with
  | nil => exact fun _ h => absurd h List.not_mem_nil
  | cons hanswer _ ih =>
    intro resp hresp
    rcases List.mem_cons.mp hresp with rfl | hresp
    · exact handle_ne hanswer
    · exact ih resp hresp

/-- What is read is what was taken. -/
theorem readOne_matches {b : Bench} {log : List Exchange} (h : Matches ecu b.system log) :
    Matches ecu (readOne ecu b).2.system (log ++ [.delivered (readOne ecu b).1]) := by
  have hasked : (log ++ [Exchange.delivered (readOne ecu b).1]).filterMap Exchange.sent?
      = log.filterMap Exchange.sent? := by
    rw [List.filterMap_append]
    exact List.append_nil _
  cases hqueue : b.system.toTester with
  | nil =>
    refine ⟨?_, ?_, ?_, ?_⟩
    · rw [readOne, hqueue]
      exact h.inOrder
    · rw [hasked, readOne, hqueue]
      exact h.asked
    · rw [hasked, readOne, hqueue]
      exact h.unstopped
    · rw [given_delivered, readOne, hqueue]
      exact h.taken.trans (List.append_nil _).symm
  | cons resp rest =>
    -- the transport would take an empty message for a wait that timed out
    have hne : resp ≠ [] := by
      obtain ⟨answered, _, _, haccounted⟩ := h.inOrder
      refine answers_ne haccounted.answers resp (List.mem_append_right _ ?_)
      rw [hqueue]
      exact List.mem_cons_self
    have htake : b.system.step ecu .take
        = { b.system with toTester := rest, taken := b.system.taken ++ [resp] } := by
      rw [System.step, hqueue]
    refine ⟨?_, ?_, ?_, ?_⟩
    · rw [readOne, hqueue]
      exact take_inOrder h.inOrder
    · rw [hasked, readOne, hqueue]
      show (b.system.step ecu .take).asked.Sublist _
      rw [htake]
      exact h.asked
    · rw [hasked, readOne, hqueue]
      dsimp only
      rw [htake]
      exact h.unstopped
    · rw [given_delivered, readOne, hqueue]
      dsimp only
      rw [if_neg hne, htake, ← h.taken]
      rfl

theorem asking_matches {b : Bench} {log : List Exchange} (h : Matches ecu b.system log)
    (payload : Bytes) : Matches ecu (asking ecu b payload).system (log ++ [.sent payload]) := by
  have hlog : (log ++ [Exchange.sent payload]).filterMap Exchange.sent?
      = log.filterMap Exchange.sent? ++ [payload] := by
    rw [List.filterMap_append]
    rfl
  have hgiven : given (log ++ [.sent payload]) = given log := by
    rw [given, List.filterMap_append]
    exact congrArg (fun ds => (List.flatten ds).map EcuResponse.data) (List.append_nil _)
  refine ⟨ask_inOrder h.inOrder payload, ?_, fun hgoes => ?_, ?_⟩
  · rw [hlog, asking, System.step]
    split
    · exact h.asked.append (List.Sublist.refl _)
    · exact h.asked.trans (List.sublist_append_left _ _)
  · obtain ⟨hbefore, hopen⟩ := unstopped_step (fun hgoes => (h.unstopped hgoes).1) _ hgoes
    refine ⟨hopen, ?_⟩
    rw [hlog, ← (h.unstopped hbefore).2, asking, System.step, if_pos (h.unstopped hbefore).1]
  · rw [hgiven, ← h.taken, asking, System.step]
    split <;> rfl

/-- The bench is there, and the client's log matches it. -/
def Benched (ecu : SimulatedEcu) (s : Option Bench × List Exchange) : Prop :=
  ∃ b, s.1 = some b ∧ Matches ecu b.system s.2

theorem request_benched (payload : Bytes) (functional : Bool) (s : Option Bench × List Exchange)
    (h : Benched ecu s) :
    Benched ecu
      ((SocketCan.transport (socket ecu) 0).logged.request payload functional s).2 := by
  obtain ⟨_, log⟩ := s
  obtain ⟨b, rfl, hmatches⟩ := h
  rw [Transport.logged]
  dsimp only
  rw [request_bench]
  refine ⟨_, rfl, ?_⟩
  have hread := readOne_matches (waited_matches (asking_matches hmatches payload))
  rw [List.append_assoc] at hread
  exact hread

theorem receive_benched (s : Option Bench × List Exchange) (h : Benched ecu s) :
    Benched ecu ((SocketCan.transport (socket ecu) 0).logged.receive s).2 := by
  obtain ⟨_, log⟩ := s
  obtain ⟨b, rfl, hmatches⟩ := h
  rw [Transport.logged]
  dsimp only
  rw [receive_bench]
  exact ⟨_, rfl, readOne_matches (waited_matches hmatches)⟩

/-- A bench with an ECU that has just been started. -/
def Bench.started (ecu : SimulatedEcu) (turns : Nat → List Move) : Bench :=
  ⟨Proof.started ecu, turns, 0⟩

/--
What a client has been given, and what waits in its socket, are the answers to the first requests
that have come to the ECU, one for each that is not empty. While the thread runs and nobody has
stopped it, every other request is in its hands or waits for it. What has come to the ECU the
client has sent, and it is all that the client has sent until somebody stops the ECU.
-/
structure FirstAnswers (ecu : SimulatedEcu) (s : System) (log : List Exchange) : Prop where
  sent : s.asked.Sublist (log.filterMap Exchange.sent?)
  unstopped : s.stopping = false → s.asked = log.filterMap Exchange.sent?
  answered : ∃ answered rest, s.asked = answered ++ rest
    ∧ List.Forall₂ (Answers ecu) (answered.filter (· ≠ [])) (given log ++ s.toTester)
    ∧ (s.thread ≠ .ended → s.stopping = false →
      ∃ held, rest = held ++ s.toEcu ∧ HasInHand ecu s.thread held)

theorem Matches.firstAnswers {s : System} {log : List Exchange} (h : Matches ecu s log) :
    FirstAnswers ecu s log := by
  refine ⟨h.asked, fun hgoes => (h.unstopped hgoes).2, ?_⟩
  rw [← h.taken]
  exact h.inOrder.orderly

/--
**A session gets the ECU's answers to its requests, in their order.** Whatever the session
asks for, however the thread and the owner of the ECU act while it waits, and whichever waits
come to nothing: no message is made up, repeated or skipped.
-/
theorem bench_session (ecu : SimulatedEcu) (turns : Nat → List Move) (settings : Settings)
    (ops : List Operation) :
    let s := Runs.after
      (fun s op => (Operation.answer settings (SocketCan.transport (socket ecu) 0).logged op s).2)
      (some (Bench.started ecu turns), []) ops
    ∃ b, s.1 = some b ∧ FirstAnswers ecu b.system s.2 := by
  have hstart : Benched ecu (some (Bench.started ecu turns), []) :=
    ⟨_, rfl, start_inOrder (fresh_inOrder ecu), List.Sublist.refl _, fun _ => ⟨rfl, rfl⟩, rfl⟩
  obtain ⟨b, hb, hmatches⟩ :=
    session_keeps request_benched receive_benched settings ops hstart
  exact ⟨b, hb, hmatches.firstAnswers⟩

/-! ## Where every wait is long enough -/

/-- `_handle` as a transport. A request it raises on ends the thread, and nothing is answered
after that. -/
def direct (ecu : SimulatedEcu) : Transport Bool where
  request payload _ := fun alive =>
    if alive = false ∨ payload = [] then (.ok [], alive)
    else
      match ecu.handle payload with
      | .ok resp => (.ok [⟨0x7E8, resp⟩], true)
      | .error _ => (.ok [], false)
  receive := fun alive => (.ok [], alive)

/-- A request or, with nothing to send, a receive, and the wait that belongs to it. -/
def exchange (ecu : SimulatedEcu) (b : Bench) : Option Bytes → Bench
  | some payload => (readOne ecu (waited ecu (asking ecu b payload))).2
  | none => (readOne ecu (waited ecu b)).2

/-- Whatever the tester sends, the thread runs on and has answered all of it at the end of every
wait. -/
def Timely (ecu : SimulatedEcu) (turns : Nat → List Move) : Prop :=
  ∀ acts : List (Option Bytes),
    let s := (Runs.after (exchange ecu) (Bench.started ecu turns) acts).system
    Serving ecu s ∧ left s = 0

/-- Between two exchanges nothing is on its way. -/
structure Idle (ecu : SimulatedEcu) (turns : Nat → List Move) (b : Bench) : Prop where
  reached : ∃ acts, b = Runs.after (exchange ecu) (Bench.started ecu turns) acts
  inOrder : InOrder ecu b.system
  waiting : b.system.toTester = []

theorem Idle.started (ecu : SimulatedEcu) (turns : Nat → List Move) :
    Idle ecu turns (Bench.started ecu turns) :=
  ⟨⟨[], rfl⟩, start_inOrder (fresh_inOrder ecu), rfl⟩

theorem Idle.reaches {turns : Nat → List Move} {b : Bench} (h : Idle ecu turns b)
    (act : Option Bytes) :
    ∃ acts, exchange ecu b act = Runs.after (exchange ecu) (Bench.started ecu turns) acts := by
  obtain ⟨acts, rfl⟩ := h.reached
  exact ⟨acts ++ [act], by rw [Runs.after, Runs.after, List.foldl_append]; rfl⟩

theorem Idle.answered {turns : Nat → List Move} (hturns : Timely ecu turns) {b : Bench}
    (h : Idle ecu turns b) :
    List.Forall₂ (Answers ecu) (b.system.asked.filter (· ≠ [])) b.system.taken := by
  obtain ⟨acts, rfl⟩ := h.reached
  obtain ⟨hserving, hleft⟩ := hturns acts
  obtain ⟨answered, rest, hasked, hrest, hanswers⟩ := answered_of_inOrder h.inOrder hserving
  have hnil : rest = [] := List.length_eq_zero_iff.mp (hrest.trans hleft)
  rw [hasked, hnil, List.append_nil]
  rwa [h.waiting, List.append_nil] at hanswers

/-- Taking an answer or finding none leaves the same bench. -/
theorem readOne_bench (ecu : SimulatedEcu) (b : Bench) :
    (readOne ecu b).2 = { b with system := b.system.step ecu .take } := by
  rw [readOne]
  cases hqueue : b.system.toTester with
  | nil => rw [System.step, hqueue]
  | cons resp rest => rfl

theorem waited_kept (ecu : SimulatedEcu) (b : Bench) :
    (waited ecu b).system.asked = b.system.asked ∧ (waited ecu b).system.taken = b.system.taken := by
  have hkeep : ∀ s : System, ∀ m ∈ (b.turns b.waits).filter (!·.byTester),
      s.asked = b.system.asked ∧ s.taken = b.system.taken →
        (s.step ecu m).asked = b.system.asked ∧ (s.step ecu m).taken = b.system.taken := by
    intro s m hm h
    obtain ⟨hasked, htaken⟩ := step_not_tester ecu s (by simpa using (List.mem_filter.mp hm).2)
    exact ⟨hasked.trans h.1, htaken.trans h.2⟩
  exact Runs.always_of_mem hkeep ⟨rfl, rfl⟩

theorem take_accounts (ecu : SimulatedEcu) (s : System) :
    (s.step ecu .take).asked = s.asked
      ∧ (s.step ecu .take).taken ++ (s.step ecu .take).toTester = s.taken ++ s.toTester := by
  rw [System.step]
  split
  · exact ⟨rfl, rfl⟩
  · next resp rest hqueue =>
    rw [hqueue]
    exact ⟨rfl, List.append_assoc ..⟩

/-- What waits in the client's socket after a wait are the answers to what it has sent before it. -/
theorem waited_answers {b : Bench} {old more : List Bytes} (hasked : b.system.asked = old ++ more)
    (hinOrder : InOrder ecu b.system)
    (hold : List.Forall₂ (Answers ecu) (old.filter (· ≠ [])) b.system.taken)
    (hserving : Serving ecu (readOne ecu (waited ecu b)).2.system)
    (hleft : left (readOne ecu (waited ecu b)).2.system = 0) :
    InOrder ecu (waited ecu b).system
      ∧ List.Forall₂ (Answers ecu) (more.filter (· ≠ [])) (waited ecu b).system.toTester := by
  have hwaited : InOrder ecu (waited ecu b).system := Runs.always step_inOrder _ hinOrder
  refine ⟨hwaited, ?_⟩
  obtain ⟨hkept, htaken⟩ := waited_kept ecu b
  rw [readOne_bench] at hserving hleft
  obtain ⟨hsame, haccounts⟩ := take_accounts ecu (waited ecu b).system
  obtain ⟨answered, rest, hall, hrest, hanswers⟩ :=
    answered_of_inOrder (take_inOrder hwaited) hserving
  have hnil : rest = [] := List.length_eq_zero_iff.mp (hrest.trans hleft)
  -- all requests are answered, and the answers to the old ones have been taken
  rw [hsame, hkept, hasked, hnil, List.append_nil] at hall
  rw [← hall, List.filter_append, haccounts, htaken] at hanswers
  have hlater := List.forall₂_drop_append _ _ _ hanswers
  rwa [← hold.length_eq, List.drop_left] at hlater

/-- One request, sent and waited for. -/
theorem timely_request {turns : Nat → List Move} (hturns : Timely ecu turns) {b : Bench}
    (h : Idle ecu turns b) (payload : Bytes) (functional : Bool) :
    (direct ecu).request payload functional true
        = (.ok (readOne ecu (waited ecu (asking ecu b payload))).1, true)
      ∧ Idle ecu turns (readOne ecu (waited ecu (asking ecu b payload))).2 := by
  obtain ⟨acts, hacts⟩ := h.reaches (some payload)
  have hnext := hturns acts
  rw [← hacts] at hnext
  obtain ⟨hserving, hleft⟩ := hnext
  have hopen : b.system.isOpen = true := by
    obtain ⟨acts, rfl⟩ := h.reached
    exact (hturns acts).1.isOpen
  have hasking : (asking ecu b payload).system.asked = b.system.asked ++ [payload]
      ∧ (asking ecu b payload).system.taken = b.system.taken := by
    rw [asking, System.step, if_pos hopen]
    exact ⟨rfl, rfl⟩
  -- the wait leaves the answer to this request in the queue, and no other
  obtain ⟨hwaited, hanswers⟩ := waited_answers hasking.1 (ask_inOrder h.inOrder payload)
    (hasking.2 ▸ h.answered hturns) hserving hleft
  have hreaches := h.reaches (some payload)
  rw [exchange] at hreaches
  generalize waited ecu (asking ecu b payload) = b' at *
  by_cases hempty : payload = []
  · -- nothing is answered to nothing
    rw [hempty, List.filter_cons_of_neg (by simp), List.filter_nil, List.forall₂_nil_left_iff]
      at hanswers
    have hread : readOne ecu b' = ([], b') := by rw [readOne, hanswers]
    rw [hread] at hreaches ⊢
    exact ⟨by rw [hempty]; rfl, hreaches, hwaited, hanswers⟩
  · rw [List.filter_cons_of_pos (by simpa using hempty), List.filter_nil] at hanswers
    obtain ⟨resp, _, hanswer, hrest, hqueue⟩ := List.forall₂_cons_left_iff.mp hanswers
    rw [List.forall₂_nil_left_iff.mp hrest] at hqueue
    have hread : (readOne ecu b').1 = [⟨0x7E8, resp⟩] := by
      rw [readOne, hqueue]
      dsimp only
      rw [if_neg (handle_ne hanswer)]
    have hrequest : (direct ecu).request payload functional true
        = (.ok [⟨0x7E8, resp⟩], true) := by
      rw [direct]
      dsimp only
      rw [if_neg (by simp [hempty]), hanswer]
    refine ⟨by rw [hread, hrequest], hreaches, ?_, ?_⟩
    · rw [readOne_bench]
      exact take_inOrder hwaited
    · rw [readOne_bench, System.step, hqueue]

/-- A wait without a request. -/
theorem timely_receive {turns : Nat → List Move} (hturns : Timely ecu turns) {b : Bench}
    (h : Idle ecu turns b) :
    (readOne ecu (waited ecu b)).1 = [] ∧ Idle ecu turns (readOne ecu (waited ecu b)).2 := by
  obtain ⟨acts, hacts⟩ := h.reaches none
  have hnext := hturns acts
  rw [← hacts] at hnext
  obtain ⟨hwaited, hanswers⟩ := waited_answers (List.append_nil _).symm h.inOrder
    (h.answered hturns) hnext.1 hnext.2
  rw [List.filter_nil, List.forall₂_nil_left_iff] at hanswers
  have hreaches := h.reaches none
  rw [exchange] at hreaches
  have hread : readOne ecu (waited ecu b) = ([], waited ecu b) := by rw [readOne, hanswers]
  rw [hread] at hreaches ⊢
  exact ⟨rfl, hreaches, hwaited, hanswers⟩

/-- **A session whose waits are long enough is a session with the answers of the ECU.** -/
theorem timely_session {turns : Nat → List Move} (hturns : Timely ecu turns) (settings : Settings)
    (ops : List Operation) :
    ends (Operation.answer settings (SocketCan.transport (socket ecu) 0)) ops
        (some (Bench.started ecu turns))
      = ends (Operation.answer settings (direct ecu)) ops true := by
  have hchannel : SameChannel (Opened fun b alive => Idle ecu turns b ∧ alive = true)
      (SocketCan.transport (socket ecu) 0) (direct ecu) := by
    constructor
    · intro payload functional
      refine alike_of_runs ?_
      intro s alive hs
      obtain ⟨b, rfl, hidle, rfl⟩ := hs
      obtain ⟨hend, hnext⟩ := timely_request hturns hidle payload functional
      exact ⟨_, _, _, request_bench ecu b payload functional, hend, _, rfl, hnext, rfl⟩
    · refine alike_of_runs ?_
      intro s alive hs
      obtain ⟨b, rfl, hidle, rfl⟩ := hs
      obtain ⟨hend, hnext⟩ := timely_receive hturns hidle
      refine ⟨_, _, true, receive_bench ecu b, ?_, _, rfl, hnext, rfl⟩
      rw [hend]
      rfl
  exact ends_alike (Operation.alike hchannel settings) ops ⟨_, rfl, Idle.started ecu turns, rfl⟩

/-! ## A round in every wait -/

/-- Moves that stop the ECU or fail. -/
def Move.disturbs : Move → Bool
  | .recvFails | .sendFails | .requestStop | .close => true
  | _ => false

/-- One round of the thread's loop. -/
def round : List Move := [.check, .select, .recv, .send]

/-- The thread gets at least one round in every wait, whatever else happens, and is not disturbed. -/
def Rounds (turns : Nat → List Move) : Prop :=
  ∀ n, round.Sublist (turns n) ∧ ∀ m ∈ turns n, Move.disturbs m = false

theorem smooth_of_waiting (ecu : SimulatedEcu) {m : Move} (htester : m.byTester = false)
    (hdisturbs : Move.disturbs m = false) : Smooth ecu m := by
  cases m with
  | ask | take => cases htester
  | recvFails | sendFails | requestStop | close => cases hdisturbs
  | check | select | timeout | recv | send | start => exact trivial

theorem own_range {j : Nat} (hj : j ≤ 4) :
    (List.range' j (4 - j)).map own = round.drop j := by
  interval_cases j <;> rfl

theorem rank_le (th : Thread) : rank th ≤ 4 := by
  cases th <;> simp [rank]

/-- Of the first `k` requests one is not yet behind the thread, which stands at place `j` of its
loop, or all of them are. -/
def Onward (ecu : SimulatedEcu) (k j : Nat) (s : System) : Prop :=
  Behind ecu k 0 s ∨ Behind ecu k 1 s ∧ rank s.thread = j

theorem Onward.any {k j : Nat} {s : System} {m : Move} (hm : Smooth ecu m)
    (h : Onward ecu k j s) : Onward ecu k j (s.step ecu m) ∨ Onward ecu k (j + 1) (s.step ecu m) := by
  rcases h with hdone | ⟨hbehind, hrank⟩
  · exact .inl (.inl (hdone.kept hm))
  · rcases hbehind.advances hm with hdone | hsame | hnext
    · exact .inl (.inl hdone)
    · exact .inl (.inr ⟨hbehind.kept hm, hsame.trans hrank⟩)
    · exact .inr (.inr ⟨hbehind.kept hm, hrank ▸ hnext⟩)

theorem Onward.own {k j : Nat} {s : System} (h : Onward ecu k j s) :
    Onward ecu k (j + 1) (s.step ecu (own j)) := by
  rcases h with hdone | ⟨hbehind, rfl⟩
  · exact .inl (hdone.kept (own_smooth ecu j))
  · rcases hbehind.own_advances with hdone | hnext
    · exact .inl hdone
    · exact .inr ⟨hbehind.kept (own_smooth ecu _), hnext⟩

/-- A thread that runs does not come to the end of the places. -/
theorem Onward.done {k j : Nat} {s : System} (h : Onward ecu k j s) (hj : 4 ≤ j) :
    Behind ecu k 0 s := by
  refine h.elim id fun hended => ?_
  obtain ⟨⟨hserving, -⟩, hrank⟩ := hended
  cases hth : s.thread with
  | ended => exact absurd hth hserving.runs
  | _ =>
    rw [hth, rank] at hrank
    omega

/-- **In a round the thread gets through with a request**, wherever it stands in its loop. -/
theorem round_through {k : Nat} {s : System} {moves : List Move} (h : Behind ecu k 1 s)
    (hround : round.Sublist moves) (hsmooth : ∀ m ∈ moves, Smooth ecu m) :
    Behind ecu k 0 (Runs.after (System.step ecu) s moves) := by
  have hmoves : ((List.range' (rank s.thread) (4 - rank s.thread)).map own).Sublist moves := by
    rw [own_range (rank_le s.thread)]
    exact (List.drop_sublist _ _).trans hround
  have hany : ∀ j s m, Smooth ecu m → Onward ecu k j s →
      Onward ecu k j (s.step ecu m) ∨ Onward ecu k (j + 1) (s.step ecu m) :=
    fun _ _ _ hm h => h.any hm
  have hown : ∀ j s, Onward ecu k j s → Onward ecu k (j + 1) (s.step ecu (own j)) :=
    fun _ _ h => h.own
  have hlast : ∀ s, Onward ecu k (4 + 1) s → Onward ecu k 4 s := fun _ h => .inl (h.done (by decide))
  have hend := Runs.passes hany hown hlast (Nat.add_sub_of_le (rank_le s.thread)) hmoves hsmooth
    (.inr ⟨h, rfl⟩)
  exact hend.done (Nat.le_refl 4)

/-- A wait with at most one request in it, and the reading after it. -/
theorem round_idle {b : Bench} (hturns : Rounds b.turns) (hserving : Serving ecu b.system)
    (hleft : left b.system ≤ 1) :
    (readOne ecu (waited ecu b)).2.turns = b.turns
      ∧ Serving ecu (readOne ecu (waited ecu b)).2.system
      ∧ left (readOne ecu (waited ecu b)).2.system = 0 := by
  obtain ⟨hround, hcalm⟩ := hturns b.waits
  have hbehind : Behind ecu b.system.asked.length 0 (waited ecu b).system := by
    refine round_through ⟨hserving, Nat.le_refl _, Nat.add_le_add_left hleft _⟩ ?_ ?_
    · exact hround.filter (p := fun m => !m.byTester)
    · intro m hm
      obtain ⟨hmem, htester⟩ := List.mem_filter.mp hm
      exact smooth_of_waiting ecu (by simpa using htester) (hcalm m hmem)
  obtain ⟨hserving', -, hleft'⟩ := hbehind
  rw [(waited_kept ecu b).1] at hleft'
  rw [readOne_bench]
  have htaken : ∀ s : System, left (s.step ecu .take) = left s := by
    intro s
    rw [System.step]
    split <;> rfl
  refine ⟨rfl, (smooth_step hserving' (m := .take) trivial).1, ?_⟩
  show left ((waited ecu b).system.step ecu .take) = 0
  rw [htaken]
  omega

/-- **A round in every wait is enough**, where the ECU has an answer to everything. -/
theorem timely_of_rounds {turns : Nat → List Move} (hturns : Rounds turns)
    (hall : ∀ req, req ≠ [] → ∃ resp, Answers ecu req resp) : Timely ecu turns := by
  have hkeep : ∀ b act, b.turns = turns ∧ Serving ecu b.system ∧ left b.system = 0 →
      (exchange ecu b act).turns = turns ∧ Serving ecu (exchange ecu b act).system
        ∧ left (exchange ecu b act).system = 0 := by
    intro b act h
    obtain ⟨rfl, hserving, hleft⟩ := h
    cases act with
    | none => exact round_idle hturns hserving (by omega)
    | some payload =>
      have hasking : Serving ecu (asking ecu b payload).system
          ∧ left (asking ecu b payload).system ≤ 1 := by
        refine ⟨(smooth_step hserving (m := .ask payload) (hall payload)).1, ?_⟩
        rw [left] at hleft
        rw [asking, System.step, if_pos hserving.isOpen, left, List.length_append,
          List.length_singleton]
        dsimp only
        omega
      exact round_idle (b := asking ecu b payload) hturns hasking.1 hasking.2
  intro acts
  exact (Runs.always hkeep acts ⟨rfl, started_serving ecu, rfl⟩).2

end AutoDiag.Proof

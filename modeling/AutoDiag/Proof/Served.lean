import AutoDiag.Simulator.Serve
import Mathlib.Data.List.Forall2

/-!
# The simulated ECU answers in order

Whatever the tester and the owner do in between, the answers that have reached the
tester belong to the requests in their order (`served_in_order`). As long as the thread
runs and nobody stops it, no request is lost.
-/

namespace AutoDiag.Proof

open Serve

variable {ecu : SimulatedEcu} {s : System}

/-- `resp` is the answer to `req`. -/
def Answers (ecu : SimulatedEcu) (req resp : Bytes) : Prop := ecu.handle req = .ok resp

/-- The request in the hands of the thread. -/
def HasInHand (ecu : SimulatedEcu) : Thread → List Bytes → Prop
  | .answering resp, held => ∃ req, req ≠ [] ∧ held = [req] ∧ Answers ecu req resp
  | _, held => held = []

/-- Requests are lost with a thread that has died over one, or when the ECU is stopped. -/
def MayLose (s : System) (lost : List Bytes) : Prop :=
  lost = [] ∨ (s.thread = .ended ∧ lost.length ≤ 1)
    ∨ s.stopping ∧ (s.isOpen = false ∨ s.thread = .ended ∨ s.thread = .polling)

/-- Every request is answered, in hand, lost or waiting. -/
structure Accounted (ecu : SimulatedEcu) (s : System) (answered held lost : List Bytes) : Prop where
  asked : s.asked = answered ++ held ++ lost ++ s.toEcu
  answers : List.Forall₂ (Answers ecu) (answered.filter (· ≠ [])) (s.taken ++ s.toTester)
  holds : HasInHand ecu s.thread held
  mayLose : MayLose s lost
  before : s.isOpen = true ∨ s.stopping = true ∨ s.asked = [] ∧ s.thread = .ended

def InOrder (ecu : SimulatedEcu) (s : System) : Prop :=
  ∃ answered held lost, Accounted ecu s answered held lost

theorem fresh_inOrder (ecu : SimulatedEcu) : InOrder ecu .fresh :=
  ⟨[], [], [], rfl, .nil, rfl, .inl rfl, .inr (.inr ⟨rfl, rfl⟩)⟩

/-! ## One move -/

/-- A request joins the queue, and its answer what is still due. -/
theorem ask_inOrder (h : InOrder ecu s) (payload : Bytes) :
    InOrder ecu (s.step ecu (.ask payload)) := by
  rw [System.step]
  split
  · next hopen =>
    obtain ⟨answered, held, lost, h⟩ := h
    refine ⟨answered, held, lost, ?_, h.answers, h.holds, h.mayLose, .inl hopen⟩
    show s.asked ++ [payload] = _
    rw [h.asked, List.append_assoc]
  · exact h

theorem take_inOrder (h : InOrder ecu s) : InOrder ecu (s.step ecu .take) := by
  rw [System.step]
  split
  · exact h
  · next resp rest hqueue =>
    obtain ⟨answered, held, lost, h⟩ := h
    refine ⟨answered, held, lost, h.asked, ?_, h.holds, h.mayLose, h.before⟩
    have hanswers := h.answers
    rw [hqueue] at hanswers
    rwa [List.append_assoc]

/-- The thread moves on with nothing in hand. -/
theorem moved_inOrder (h : InOrder ecu s) {th : Thread} (hth : HasInHand ecu th [])
    (hthread : HasInHand ecu s.thread [])
    (hlose : ∀ lost, MayLose s lost → MayLose { s with thread := th } lost)
    (hrun : s.thread ≠ .ended) : InOrder ecu { s with thread := th } := by
  obtain ⟨answered, held, lost, h⟩ := h
  have hheld : held = [] := by
    have hholds := h.holds
    cases hs : s.thread with
    | answering resp =>
      rw [hs] at hthread
      obtain ⟨_, _, hnil, _⟩ := hthread
      cases hnil
    | _ => rwa [hs] at hholds
  refine ⟨answered, [], lost, hheld ▸ h.asked, h.answers, hth, hlose lost h.mayLose, ?_⟩
  exact h.before.imp_right fun hbefore => hbefore.imp_right fun hnone => absurd hnone.2 hrun

/-- A thread that ends loses nothing. -/
theorem mayLose_ended (lost : List Bytes) (h : MayLose s lost) (hrun : s.thread ≠ .ended) :
    MayLose { s with thread := .ended } lost := by
  rcases h with hnone | ⟨hended, _⟩ | ⟨hstop, _⟩
  · exact .inl hnone
  · exact absurd hended hrun
  · exact .inr (.inr ⟨hstop, .inr (.inl rfl)⟩)

theorem ended_inOrder (h : InOrder ecu s) (hthread : HasInHand ecu s.thread [])
    (hrun : s.thread ≠ .ended) : InOrder ecu { s with thread := .ended } :=
  moved_inOrder h rfl hthread (fun lost hlost => mayLose_ended lost hlost hrun) hrun

/-- Nothing is lost while the thread has a request or looks for one in its open socket. -/
theorem MayLose.nothing {lost : List Bytes} (h : MayLose s lost) (hended : s.thread ≠ .ended)
    (hgoes : s.stopping = false ∨ s.isOpen = true ∧ s.thread ≠ .polling) : lost = [] := by
  rcases h with hnone | ⟨hthread, _⟩ | ⟨hstop, hclosed | hthread | hthread⟩
  · exact hnone
  · exact absurd hthread hended
  · rcases hgoes with hgoes | ⟨hopen, _⟩
    · exact absurd hstop (by rw [hgoes]; decide)
    · exact absurd hopen (by rw [hclosed]; decide)
  · exact absurd hthread hended
  · rcases hgoes with hgoes | ⟨_, hpolling⟩
    · exact absurd hstop (by rw [hgoes]; decide)
    · exact absurd hthread hpolling

/-- Looking at the flag moves no message. -/
theorem check_inOrder (h : InOrder ecu s) : InOrder ecu (s.step ecu .check) := by
  rw [System.step]
  split
  · next hthread =>
    have hrun : s.thread ≠ .ended := by rw [hthread]; decide
    split
    · exact ended_inOrder h (hthread ▸ rfl) hrun
    · next hgoes =>
      refine moved_inOrder h rfl (hthread ▸ rfl) (fun lost hlost => .inl ?_) hrun
      exact hlost.nothing hrun (.inl (by simpa using hgoes))
  · exact h

theorem select_inOrder (h : InOrder ecu s) : InOrder ecu (s.step ecu .select) := by
  rw [System.step]
  split
  · next hthread =>
    have hrun : s.thread ≠ .ended := by rw [hthread]; decide
    split
    · next hopen =>
      split
      · exact h
      · refine moved_inOrder h rfl (hthread ▸ rfl) (fun lost hlost => .inl ?_) hrun
        exact hlost.nothing hrun (.inr ⟨hopen, by rw [hthread]; decide⟩)
    · exact ended_inOrder h (hthread ▸ rfl) hrun
  · exact h

theorem timeout_inOrder (h : InOrder ecu s) : InOrder ecu (s.step ecu .timeout) := by
  rw [System.step]
  split
  · next hthread =>
    have hrun : s.thread ≠ .ended := by rw [hthread.1]; decide
    refine moved_inOrder h rfl (hthread.1 ▸ rfl) ?_ hrun
    intro lost hlost
    rcases hlost with hnone | ⟨hended, _⟩ | ⟨hstop, _⟩
    · exact .inl hnone
    · exact absurd hended hrun
    · exact .inr (.inr ⟨hstop, .inr (.inr rfl)⟩)
  · exact h

theorem filter_push_nil (answered : List Bytes) :
    (answered ++ [[]]).filter (· ≠ []) = answered.filter (· ≠ []) := by
  rw [List.filter_append]
  exact List.append_nil _

theorem filter_push (answered : List Bytes) {req : Bytes} (h : req ≠ []) :
    (answered ++ [req]).filter (· ≠ []) = answered.filter (· ≠ []) ++ [req] := by
  rw [List.filter_append, List.filter_cons_of_pos (by simpa using h), List.filter_nil]

/-- The thread takes the request that waits longest. -/
theorem recv_inOrder (h : InOrder ecu s) : InOrder ecu (s.step ecu .recv) := by
  rw [System.step]
  split
  · next hthread =>
    split
    · next hopen =>
      split
      · exact h
      · next req rest hqueue =>
        obtain ⟨answered, held, lost, h⟩ := h
        have hnone := h.mayLose.nothing (by rw [hthread]; decide)
          (.inr ⟨hopen, by rw [hthread]; decide⟩)
        have hheld : held = [] := by
          have hholds := h.holds
          rwa [hthread] at hholds
        have hasked : s.asked = answered ++ req :: rest := by
          rw [h.asked, hheld, hnone, hqueue, List.append_nil, List.append_nil]
        -- an empty request counts as answered, by nothing
        by_cases hreq : req = []
        · refine ⟨answered ++ [req], [], [], ?_, ?_, ?_, .inl rfl, .inl hopen⟩
          · simpa using hasked
          · rw [hreq, filter_push_nil]
            exact h.answers
          · rw [Thread.handling, if_pos hreq]
            rfl
        · cases hhandle : ecu.handle req with
          | ok resp =>
            refine ⟨answered, [req], [], ?_, h.answers, ?_, .inl rfl, .inl hopen⟩
            · simpa using hasked
            · rw [Thread.handling, if_neg hreq, hhandle]
              exact ⟨req, hreq, rfl, hhandle⟩
          -- `_handle` raises, and the request is lost with the thread
          | error e =>
            refine ⟨answered, [], [req], ?_, h.answers, ?_, ?_, .inl hopen⟩
            · simpa using hasked
            · rw [Thread.handling, if_neg hreq, hhandle]
              rfl
            · refine .inr (.inl ⟨?_, Nat.le_refl 1⟩)
              rw [Thread.handling, if_neg hreq, hhandle]
    · have hrun : s.thread ≠ .ended := by rw [hthread]; decide
      exact ended_inOrder h (hthread ▸ rfl) hrun
  · exact h

theorem recvFails_inOrder (h : InOrder ecu s) : InOrder ecu (s.step ecu .recvFails) := by
  rw [System.step]
  split
  · next hthread =>
    have hrun : s.thread ≠ .ended := by rw [hthread]; decide
    exact ended_inOrder h (hthread ▸ rfl) hrun
  · exact h

/-- The request in hand is lost with the thread. -/
theorem dropped_inOrder (h : InOrder ecu s) {resp : Bytes} (hthread : s.thread = .answering resp) :
    InOrder ecu { s with thread := .ended } := by
  obtain ⟨answered, held, lost, h⟩ := h
  have hholds := h.holds
  rw [hthread] at hholds
  obtain ⟨req, -, rfl, -⟩ := hholds
  refine ⟨answered, [], [req] ++ lost, ?_, h.answers, rfl, ?_, ?_⟩
  · simpa using h.asked
  -- the thread has run until now, so it is the first request to be lost with it
  · rcases h.mayLose with hnone | ⟨hended, _⟩ | ⟨hstop, _⟩
    · exact .inr (.inl ⟨rfl, by rw [hnone]; exact Nat.le_refl 1⟩)
    · exact absurd hended (by rw [hthread]; simp)
    · exact .inr (.inr ⟨hstop, .inr (.inl rfl)⟩)
  · refine h.before.imp_right fun hbefore => hbefore.imp_right fun hnothing => ?_
    exact absurd hnothing.2 (by rw [hthread]; simp)

/-- The answer in hand goes to the tester's side. -/
theorem send_inOrder (h : InOrder ecu s) : InOrder ecu (s.step ecu .send) := by
  rw [System.step]
  split
  · next resp hthread =>
    split
    · next hopen =>
      obtain ⟨answered, held, lost, h⟩ := h
      have hnone := h.mayLose.nothing (by rw [hthread]; simp) (.inr ⟨hopen, by rw [hthread]; simp⟩)
      have hholds := h.holds
      rw [hthread] at hholds
      obtain ⟨req, hreq, rfl, hanswer⟩ := hholds
      refine ⟨answered ++ [req], [], [], ?_, ?_, rfl, .inl rfl, .inl hopen⟩
      · rw [h.asked, hnone]
        simp
      · rw [filter_push answered hreq]
        show List.Forall₂ _ _ (s.taken ++ (s.toTester ++ [resp]))
        rw [← List.append_assoc]
        exact List.rel_append h.answers (.cons hanswer .nil)
    · exact dropped_inOrder h hthread
  · exact h

theorem sendFails_inOrder (h : InOrder ecu s) : InOrder ecu (s.step ecu .sendFails) := by
  rw [System.step]
  split
  · next resp hthread => exact dropped_inOrder h hthread
  · exact h

/-- What waited when the socket was closed is lost. -/
theorem close_inOrder (h : InOrder ecu s) : InOrder ecu (s.step ecu .close) := by
  rw [System.step]
  split
  · next hstop =>
    obtain ⟨answered, held, lost, h⟩ := h
    refine ⟨answered, held, lost ++ s.toEcu, ?_, h.answers, h.holds, ?_, .inr (.inl hstop)⟩
    · simpa using h.asked
    · exact .inr (.inr ⟨hstop, .inl rfl⟩)
  · exact h

theorem start_inOrder (h : InOrder ecu s) : InOrder ecu (s.step ecu .start) := by
  rw [System.step]
  split
  · next hready =>
    obtain ⟨hclosed, hthread⟩ : s.isOpen = false ∧ s.thread = .ended := by simpa using hready
    obtain ⟨answered, held, lost, h⟩ := h
    have hheld : held = [] := by
      have hholds := h.holds
      rwa [hthread] at hholds
    refine ⟨answered, held, lost, h.asked, h.answers, hheld, ?_, .inl rfl⟩
    -- a closed socket has been closed by `stop`, or was never open, and then nothing was asked
    rcases h.before with hopen | hstop | ⟨hasked, _⟩
    · exact absurd hopen (by rw [hclosed]; decide)
    · exact .inr (.inr ⟨hstop, .inr (.inr rfl)⟩)
    · have hempty := h.asked.symm.trans hasked
      exact .inl (List.append_eq_nil_iff.mp (List.append_eq_nil_iff.mp hempty).1).2
  · exact h

theorem requestStop_inOrder (h : InOrder ecu s) : InOrder ecu (s.step ecu .requestStop) := by
  obtain ⟨answered, held, lost, h⟩ := h
  refine ⟨answered, held, lost, h.asked, h.answers, h.holds, ?_, .inr (.inl rfl)⟩
  exact h.mayLose.imp_right fun hlost => hlost.imp_right fun hstop => ⟨rfl, hstop.2⟩

/-- **Every move keeps the order.** -/
theorem step_inOrder (s : System) (m : Move) (h : InOrder ecu s) : InOrder ecu (s.step ecu m) := by
  cases m with
  | ask payload => exact ask_inOrder h payload
  | take => exact take_inOrder h
  | check => exact check_inOrder h
  | select => exact select_inOrder h
  | timeout => exact timeout_inOrder h
  | recv => exact recv_inOrder h
  | recvFails => exact recvFails_inOrder h
  | send => exact send_inOrder h
  | sendFails => exact sendFails_inOrder h
  | start => exact start_inOrder h
  | requestStop => exact requestStop_inOrder h
  | close => exact close_inOrder h

/-! ## Runs -/

/-- The answers that have gone to the tester are those of the first requests, one for each that is
not empty. While the thread runs and nobody has stopped it, every other request is in its hands or
waits for it. -/
def Orderly (ecu : SimulatedEcu) (s : System) : Prop :=
  ∃ answered rest, s.asked = answered ++ rest
    ∧ List.Forall₂ (Answers ecu) (answered.filter (· ≠ [])) (s.taken ++ s.toTester)
    ∧ (s.thread ≠ .ended → s.stopping = false →
      ∃ held, rest = held ++ s.toEcu ∧ HasInHand ecu s.thread held)

theorem InOrder.orderly (h : InOrder ecu s) : Orderly ecu s := by
  obtain ⟨answered, held, lost, h⟩ := h
  refine ⟨answered, held ++ lost ++ s.toEcu, ?_, h.answers, ?_⟩
  · rw [h.asked, List.append_assoc, List.append_assoc, List.append_assoc]
  · intro hended hgoes
    refine ⟨held, ?_, h.holds⟩
    rw [h.mayLose.nothing hended (.inl hgoes), List.append_nil]

/-- **The answers come in the order of the requests**, after any moves of the tester, the thread
and the owner. -/
theorem served_in_order (ecu : SimulatedEcu) (moves : List Move) :
    Orderly ecu (Runs.after (System.step ecu) .fresh moves) :=
  (Runs.always step_inOrder moves (fresh_inOrder ecu)).orderly

/-! ## Stopping -/

/-- Answers that the thread can still send once the flag is set. -/
def Thread.budget : Thread → Nat
  | .selecting | .ready | .answering _ => 1
  | .ended | .polling => 0

/-- The flag is set, and no more has been sent since `given` than the thread had in hand. -/
def Stopping (given : List Bytes) (n : Nat) (s : System) : Prop :=
  s.stopping = true
    ∧ ∃ last, s.taken ++ s.toTester = given ++ last ∧ last.length + Thread.budget s.thread ≤ n

theorem handling_budget (ecu : SimulatedEcu) (req : Bytes) :
    Thread.budget (.handling ecu req) ≤ 1 := by
  cases Serve.Thread.handling ecu req with
  | ended | polling => exact Nat.zero_le 1
  | selecting | ready | answering => exact Nat.le_refl 1

theorem step_stopping {given : List Bytes} {n : Nat} (s : System) (m : Move)
    (h : Stopping given n s) : Stopping given n (s.step ecu m) := by
  obtain ⟨hstop, last, hgiven, hlast⟩ := h
  -- for the moves that send nothing; `send` uses the one answer that was left
  have hsame : ∀ th, Thread.budget th ≤ Thread.budget s.thread →
      last.length + Thread.budget th ≤ n := fun th hth => by omega
  cases m with
  | ask payload =>
    rw [System.step]
    split <;> exact ⟨hstop, last, hgiven, hlast⟩
  | take =>
    rw [System.step]
    split
    · exact ⟨hstop, last, hgiven, hlast⟩
    · next resp rest hqueue =>
      refine ⟨hstop, last, ?_, hlast⟩
      rw [← hgiven, hqueue, List.append_assoc]
      rfl
  | check =>
    rw [System.step]
    split
    · exact ⟨hstop, last, hgiven, hsame .ended (Nat.zero_le _)⟩
    · exact ⟨hstop, last, hgiven, hlast⟩
  | select =>
    rw [System.step]
    split
    · next hthread =>
      split
      · split
        · exact ⟨hstop, last, hgiven, hlast⟩
        · exact ⟨hstop, last, hgiven, hsame .ready (by rw [hthread]; exact Nat.le_refl 1)⟩
      · exact ⟨hstop, last, hgiven, hsame .ended (Nat.zero_le _)⟩
    · exact ⟨hstop, last, hgiven, hlast⟩
  | timeout =>
    rw [System.step]
    split
    · exact ⟨hstop, last, hgiven, hsame .polling (Nat.zero_le _)⟩
    · exact ⟨hstop, last, hgiven, hlast⟩
  | recv =>
    rw [System.step]
    split
    · next hthread =>
      split
      · split
        · exact ⟨hstop, last, hgiven, hlast⟩
        · next req rest hqueue =>
          refine ⟨hstop, last, hgiven, hsame _ ?_⟩
          rw [hthread]
          exact handling_budget ecu req
      · exact ⟨hstop, last, hgiven, hsame .ended (Nat.zero_le _)⟩
    · exact ⟨hstop, last, hgiven, hlast⟩
  | recvFails =>
    rw [System.step]
    split
    · exact ⟨hstop, last, hgiven, hsame .ended (Nat.zero_le _)⟩
    · exact ⟨hstop, last, hgiven, hlast⟩
  | send =>
    rw [System.step]
    split
    · next resp hthread =>
      split
      · refine ⟨hstop, last ++ [resp], ?_, ?_⟩
        · show s.taken ++ (s.toTester ++ [resp]) = _
          rw [← List.append_assoc, hgiven, List.append_assoc]
        · rw [hthread] at hlast
          rw [List.length_append]
          exact hlast
      · exact ⟨hstop, last, hgiven, hsame .ended (Nat.zero_le _)⟩
    · exact ⟨hstop, last, hgiven, hlast⟩
  | sendFails =>
    rw [System.step]
    split
    · exact ⟨hstop, last, hgiven, hsame .ended (Nat.zero_le _)⟩
    · exact ⟨hstop, last, hgiven, hlast⟩
  | start =>
    rw [System.step]
    split
    · exact ⟨hstop, last, hgiven, hsame .polling (Nat.zero_le _)⟩
    · exact ⟨hstop, last, hgiven, hlast⟩
  | requestStop => exact ⟨rfl, last, hgiven, hlast⟩
  | close =>
    rw [System.step, if_pos hstop]
    exact ⟨hstop, last, hgiven, hlast⟩

/--
**Once stopped, the ECU is stopped for good.** Whatever happens after `stop` has set its flag,
another `start` included, at most one more answer is sent, and none if the thread was at the
head of its loop: nothing ever clears the flag.
-/
theorem stopped_for_good (ecu : SimulatedEcu) (s : System) (moves : List Move) :
    ∃ last, (Runs.after (System.step ecu) (s.step ecu .requestStop) moves).taken
        ++ (Runs.after (System.step ecu) (s.step ecu .requestStop) moves).toTester
        = s.taken ++ s.toTester ++ last
      ∧ last.length ≤ Thread.budget s.thread := by
  have hstart : Stopping (s.taken ++ s.toTester) (Thread.budget s.thread)
      (s.step ecu .requestStop) :=
    ⟨rfl, [], (List.append_nil _).symm, (Nat.zero_add _).le⟩
  obtain ⟨-, last, hgiven, hlast⟩ := Runs.always step_stopping moves hstart
  exact ⟨last, hgiven, by omega⟩

end AutoDiag.Proof

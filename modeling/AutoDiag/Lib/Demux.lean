import Mathlib.Data.List.AList
import Mathlib.Data.List.Induction

/-!
# Demultiplexing a keyed stream

A stream of key/value pairs is sorted into one list per key, and the keys are
kept in the order in which they were first seen. What comes out depends on each
key's own subsequence only: `collect_lookup` and `collect_order` are what makes
any interleaving of several senders equivalent to serving them one after the
other.
-/

namespace AutoDiag

/-- The values seen so far, by key, and the keys in order of first appearance. -/
structure Demux (κ β : Type) [DecidableEq κ] where
  groups : AList (fun _ : κ => List β)
  order : List κ

namespace Demux

variable {κ β : Type} [DecidableEq κ]

def empty : Demux κ β := ⟨∅, []⟩

/-- One pair: a new key gets an empty list and a place in the order first. -/
def add (d : Demux κ β) (x : κ × β) : Demux κ β :=
  let d := if x.1 ∈ d.groups then d else ⟨d.groups.insert x.1 [], d.order ++ [x.1]⟩
  ⟨d.groups.insert x.1 ((d.groups.lookup x.1).getD [] ++ [x.2]), d.order⟩

/-- A whole stream, from nothing. -/
def collect (xs : List (κ × β)) : Demux κ β := xs.foldl add empty

/-- What one key sent, in its own order. -/
def valuesOf (k : κ) (xs : List (κ × β)) : List β := (xs.filter (·.1 = k)).map (·.2)

/-- The keys of a stream in order of first appearance. -/
def firstSeen (xs : List (κ × β)) : List κ := (xs.map (·.1)).eraseDups

@[simp] theorem valuesOf_append (k : κ) (xs ys : List (κ × β)) :
    valuesOf k (xs ++ ys) = valuesOf k xs ++ valuesOf k ys := by
  simp [valuesOf]

theorem valuesOf_eq_nil {k : κ} {xs : List (κ × β)} (h : k ∉ xs.map (·.1)) :
    valuesOf k xs = [] := by
  have hf : xs.filter (·.1 = k) = [] := by
    refine List.filter_eq_nil_iff.mpr ?_
    intro x hx
    simp only [decide_eq_true_eq]
    exact fun he => h (he ▸ List.mem_map_of_mem hx)
  rw [valuesOf, hf]
  rfl

/-- The first value of a key is that of its first pair. -/
theorem valuesOf_eq_cons {k : κ} {v : β} {vs : List β} {xs : List (κ × β)}
    (h : valuesOf k xs = v :: vs) :
    ∃ front back, xs = front ++ (k, v) :: back ∧ k ∉ front.map (·.1) := by
  induction xs with
  | nil => cases h
  | cons x xs ih =>
    by_cases hx : x.1 = k
    · have hv : x.2 = v := by
        simp only [valuesOf, List.filter_cons, hx, decide_true, if_true, List.map_cons,
          List.cons.injEq] at h
        exact h.1
      exact ⟨[], xs, by rw [← hx, ← hv]; rfl, by simp⟩
    · have hrest : valuesOf k xs = v :: vs := by
        simpa only [valuesOf, List.filter_cons, hx, decide_false, Bool.false_eq_true, if_false]
          using h
      obtain ⟨front, back, rfl, hfront⟩ := ih hrest
      exact ⟨x :: front, back, rfl, by simpa [Ne.symm hx] using hfront⟩

/-- Where the first entry of a key stands, its values begin. -/
theorem valuesOf_first {k : κ} (v : β) {front back : List (κ × β)} (h : k ∉ front.map (·.1)) :
    valuesOf k (front ++ (k, v) :: back) = v :: valuesOf k back := by
  rw [valuesOf_append, valuesOf_eq_nil h, List.nil_append]
  simp [valuesOf]

@[simp] theorem mem_firstSeen {k : κ} {xs : List (κ × β)} : k ∈ firstSeen xs ↔ k ∈ xs.map (·.1) :=
  List.mem_eraseDups

/-- A key is listed when it comes for the first time, and not again. -/
theorem firstSeen_snoc (xs : List (κ × β)) (x : κ × β) :
    firstSeen (xs ++ [x])
      = if x.1 ∈ xs.map (·.1) then firstSeen xs else firstSeen xs ++ [x.1] := by
  rw [firstSeen, firstSeen, List.map_append, List.eraseDups_append]
  split
  · rename_i hm; simp [List.removeAll, hm]
  · rename_i hm; simp [List.removeAll, hm, List.eraseDups_cons]

theorem firstSeen_nodup (xs : List (κ × β)) : (firstSeen xs).Nodup := by
  induction xs using List.reverseRecOn with
  | nil => exact List.nodup_nil
  | append_singleton xs x ih =>
    rw [firstSeen_snoc]
    split
    · exact ih
    · rename_i hm
      refine List.nodup_append.mpr ⟨ih, List.nodup_singleton _, fun a ha b hb hab => hm ?_⟩
      rw [← mem_firstSeen, ← List.mem_singleton.mp hb, ← hab]
      exact ha

theorem collect_snoc (xs : List (κ × β)) (x : κ × β) :
    collect (xs ++ [x]) = (collect xs).add x := by
  simp [collect]

theorem add_lookup_self (d : Demux κ β) (x : κ × β) :
    (d.add x).groups.lookup x.1 = some ((d.groups.lookup x.1).getD [] ++ [x.2]) := by
  unfold add
  split
  · exact AList.lookup_insert _
  · rename_i h
    dsimp only
    rw [AList.lookup_insert, AList.lookup_insert, AList.lookup_eq_none.mpr h]
    rfl

/-- An entry leaves the groups of the other keys as they are. -/
theorem add_lookup_of_ne (d : Demux κ β) {x : κ × β} {k : κ} (h : k ≠ x.1) :
    (d.add x).groups.lookup k = d.groups.lookup k := by
  unfold add
  split
  · exact AList.lookup_insert_ne h
  · dsimp only
    rw [AList.lookup_insert_ne h, AList.lookup_insert_ne h]

theorem add_order (d : Demux κ β) (x : κ × β) :
    (d.add x).order = if x.1 ∈ d.groups then d.order else d.order ++ [x.1] := by
  unfold add
  split <;> rfl

/-- **A key's list is that key's own subsequence.** -/
theorem collect_lookup (xs : List (κ × β)) (k : κ) :
    (collect xs).groups.lookup k
      = if k ∈ xs.map (·.1) then some (valuesOf k xs) else none := by
  induction xs using List.reverseRecOn with
  | nil => rfl
  | append_singleton xs x ih =>
    rw [collect_snoc, valuesOf_append]
    -- a pair of another key leaves the list alone
    by_cases hk : k = x.1
    · subst hk
      have hin : x.1 ∈ (xs ++ [x]).map (·.1) := List.mem_map_of_mem (by simp)
      have hone : valuesOf x.1 [x] = [x.2] := by simp [valuesOf]
      rw [add_lookup_self, if_pos hin, ih, hone]
      by_cases hm : x.1 ∈ xs.map (·.1)
      · rw [if_pos hm]; rfl
      · rw [if_neg hm, valuesOf_eq_nil hm]; rfl
    · have hone : valuesOf k [x] = [] := valuesOf_eq_nil (by simpa using hk)
      rw [add_lookup_of_ne _ hk, ih, hone, List.append_nil]
      by_cases hm : k ∈ xs.map (·.1)
      · rw [if_pos hm, if_pos (by simp only [List.map_append, List.mem_append]; exact Or.inl hm)]
      · rw [if_neg hm, if_neg]
        simp only [List.map_append, List.mem_append, not_or]
        exact ⟨hm, by simpa using hk⟩

/-- The keys with a group are the keys that came. -/
theorem mem_collect {xs : List (κ × β)} {k : κ} :
    k ∈ (collect xs).groups ↔ k ∈ xs.map (·.1) := by
  rw [← AList.lookup_isSome, collect_lookup]
  split <;> simp_all

/-- **The keys come out in order of first appearance.** -/
theorem collect_order (xs : List (κ × β)) : (collect xs).order = firstSeen xs := by
  induction xs using List.reverseRecOn with
  | nil => rfl
  | append_singleton xs x ih =>
    rw [collect_snoc, add_order, ih, firstSeen_snoc]
    by_cases hm : x.1 ∈ xs.map (·.1)
    · rw [if_pos (mem_collect.mpr hm), if_pos hm]
    · rw [if_neg (fun h => hm (mem_collect.mp h)), if_neg hm]

/-! ## One key -/

theorem valuesOf_pairs (k : κ) (vs : List β) : valuesOf k (vs.map (k, ·)) = vs := by
  simp [valuesOf, List.filter_map, Function.comp_def]

theorem firstSeen_pairs (k : κ) {vs : List β} (h : vs ≠ []) : firstSeen (vs.map (k, ·)) = [k] := by
  have hkeys : (vs.map (k, ·)).map (·.1) = List.replicate vs.length k := by
    rw [List.map_map]
    exact List.map_const'
  obtain ⟨n, hn⟩ := Nat.exists_eq_succ_of_ne_zero (mt List.length_eq_zero_iff.mp h)
  rw [firstSeen, hkeys, hn, List.replicate_succ, List.eraseDups_cons]
  simp

/-- **The values of one key alone are that key's list.** -/
theorem collect_pairs_lookup (k : κ) {vs : List β} (h : vs ≠ []) :
    (collect (vs.map (k, ·))).groups.lookup k = some vs := by
  have hin : k ∈ (vs.map (k, ·)).map (·.1) := by
    obtain ⟨v, vs', rfl⟩ := List.exists_cons_of_ne_nil h
    exact List.mem_cons_self ..
  rw [collect_lookup, if_pos hin, valuesOf_pairs]

end Demux

end AutoDiag

import Mathlib.Data.List.Basic

/-!
# Text as separated lines

`Joined p lines text` says that `text` is `lines` with one separator between
every two of them, each separator being any character `p` accepts. Splitting a
text at the separators gives the lines back, whichever separators were used.
-/

namespace AutoDiag.Lines

variable {α : Type}

/-- `text` is `lines` joined by separators that satisfy `p`. -/
inductive Joined (p : α → Bool) : List (List α) → List α → Prop where
  | last {l : List α} : (∀ c ∈ l, p c = false) → Joined p [l] l
  | cons {l : List α} {sep : α} {ls : List (List α)} {text : List α} :
      (∀ c ∈ l, p c = false) → p sep = true → Joined p ls text →
      Joined p (l :: ls) (l ++ sep :: text)

/-- `Joined.last`, with a condition that can be computed. -/
theorem Joined.ending {p : α → Bool} {l : List α} (hl : l.any p = false) : Joined p [l] l :=
  .last (fun c hc => Bool.eq_false_iff.mpr (List.any_eq_false.mp hl c hc))

/-- `Joined.cons`, with conditions that can be computed. -/
theorem Joined.line {p : α → Bool} {l : List α} {sep : α} {ls : List (List α)} {text : List α}
    (hl : l.any p = false) (hs : p sep = true) (h : Joined p ls text) :
    Joined p (l :: ls) (l ++ sep :: text) :=
  .cons (fun c hc => Bool.eq_false_iff.mpr (List.any_eq_false.mp hl c hc)) hs h

/-- **Splitting gives the joined lines back.** -/
theorem splitOnP_of_joined {p : α → Bool} {ls : List (List α)} {text : List α}
    (h : Joined p ls text) : text.splitOnP p = ls := by
  induction h with
  | last hl => exact List.splitOnP_eq_singleton hl
  | cons hl hs _ ih => rw [List.splitOnP_append_cons_of_forall_mem hl _ hs, ih]

/-- Replacing one separator by another and splitting there splits at both. -/
theorem splitOn_replace [DecidableEq α] (c d : α) (text : List α) :
    (text.map fun x => if x = c then d else x).splitOn d
      = text.splitOnP fun x => decide (x = c) || decide (x = d) := by
  rw [List.splitOn_eq_splitOnP]
  induction text with
  | nil => rfl
  | cons x text ih =>
    rw [List.map_cons, List.splitOnP_cons_eq_if_modifyHead, List.splitOnP_cons_eq_if_modifyHead, ih]
    by_cases hc : x = c
    · simp [hc]
    · by_cases hd : x = d
      · simp [hd]
      · simp [hc, hd]

/-! ## Splitting in parts -/

/-- **The last line of a text and the first of what follows are one line.** -/
theorem splitOnP_append (p : α → Bool) (xs ys : List α) :
    ∃ ls l k ks, xs.splitOnP p = ls ++ [l] ∧ ys.splitOnP p = k :: ks
      ∧ (xs ++ ys).splitOnP p = ls ++ (l ++ k) :: ks := by
  induction xs with
  | nil =>
    obtain ⟨k, ks, hk⟩ := List.exists_cons_of_ne_nil (List.splitOnP_ne_nil p ys)
    exact ⟨[], [], k, ks, rfl, hk, hk⟩
  | cons x xs ih =>
    obtain ⟨ls, l, k, ks, hxs, hys, hboth⟩ := ih
    rw [List.cons_append, List.splitOnP_cons_eq_if_modifyHead,
      List.splitOnP_cons_eq_if_modifyHead, hxs, hboth]
    -- a separator opens a line of its own; any other character joins the first one
    split
    · exact ⟨[] :: ls, l, k, ks, rfl, hys, rfl⟩
    · cases ls with
      | nil => exact ⟨[], x :: l, k, ks, rfl, hys, rfl⟩
      | cons l' ls => exact ⟨(x :: l') :: ls, l, k, ks, rfl, hys, rfl⟩

/-- A line of a part is the start of a line of the whole. -/
theorem mem_splitOnP_of_prefix {p : α → Bool} {xs ys l : List α} (h : xs <+: ys)
    (hl : l ∈ xs.splitOnP p) : ∃ l' ∈ ys.splitOnP p, l <+: l' := by
  obtain ⟨zs, rfl⟩ := h
  obtain ⟨ls, last, k, ks, hxs, _, hboth⟩ := splitOnP_append p xs zs
  rw [hxs] at hl
  rw [hboth]
  rcases List.mem_append.mp hl with hl | hl
  · exact ⟨l, List.mem_append_left _ hl, List.prefix_refl l⟩
  · rw [List.mem_singleton.mp hl]
    exact ⟨last ++ k, by simp, List.prefix_append _ _⟩

theorem mem_of_mem_splitOnP {p : α → Bool} {x : α} {l : List α} :
    ∀ {xs : List α}, l ∈ xs.splitOnP p → x ∈ l → x ∈ xs := by
  intro xs
  induction xs generalizing l with
  | nil =>
    intro hl hx
    rw [List.mem_singleton.mp hl] at hx
    exact hx
  | cons y xs ih =>
    intro hl hx
    rw [List.splitOnP_cons_eq_if_modifyHead] at hl
    obtain ⟨k, ks, hk⟩ := List.exists_cons_of_ne_nil (List.splitOnP_ne_nil p xs)
    rw [hk] at hl ih
    split at hl
    · rcases List.mem_cons.mp hl with rfl | hl
      · simp at hx
      · exact List.mem_cons_of_mem _ (ih hl hx)
    · rcases List.mem_cons.mp hl with rfl | hl
      · rcases List.mem_cons.mp hx with rfl | hx
        · exact List.mem_cons_self ..
        · exact List.mem_cons_of_mem _ (ih (List.mem_cons_self ..) hx)
      · exact List.mem_cons_of_mem _ (ih (List.mem_cons_of_mem _ hl) hx)

theorem splitOnP_map {β : Type} (f : β → α) (p : α → Bool) (xs : List β) :
    (xs.map f).splitOnP p = (xs.splitOnP fun x => p (f x)).map (List.map f) := by
  induction xs with
  | nil => rfl
  | cons x xs ih =>
    rw [List.map_cons, List.splitOnP_cons_eq_if_modifyHead, List.splitOnP_cons_eq_if_modifyHead, ih]
    obtain ⟨k, ks, hk⟩ := List.exists_cons_of_ne_nil
      (List.splitOnP_ne_nil (fun x => p (f x)) xs)
    rw [hk]
    split
    · rfl
    · rfl

end AutoDiag.Lines

import Mathlib.Data.List.Forall2

/-!
# Searching for a pattern

A pattern is a sequence of items: a symbol of a class, kept or not, or a symbol
that may be missing. `search` finds its leftmost occurrence in a text. In a text
of two parts that is the leftmost one that begins in the first part, and only
without such a one the leftmost of the second (`search_append`). What an
occurrence keeps is a symbol of each kept class (`matchHere_kept`).
-/

namespace AutoDiag.Pattern

variable {α : Type}

/-- One item. -/
inductive Item (α : Type) where
  | one (p : α → Bool) (keep : Bool)
  | maybe (p : α → Bool)

/-- The symbols kept by an occurrence at the start of the text; a symbol that may be missing is
taken if the rest still matches. -/
def matchHere : List (Item α) → List α → Option (List α)
  | [], _ => some []
  | .one _ _ :: _, [] => none
  | .one p keep :: items, c :: s =>
    if p c then (matchHere items s).map fun kept => if keep then c :: kept else kept else none
  | .maybe _ :: items, [] => matchHere items []
  | .maybe p :: items, c :: s =>
    if p c then (matchHere items s).or (matchHere items (c :: s)) else matchHere items (c :: s)

/-- What the leftmost occurrence keeps. -/
def search (items : List (Item α)) : List α → Option (List α)
  | [] => matchHere items []
  | c :: s => (matchHere items (c :: s)).or (search items s)

/-- What the leftmost occurrence keeps that begins in the first part of a text. -/
def searchBefore (items : List (Item α)) : List α → List α → Option (List α)
  | [], _ => none
  | c :: before, after =>
    (matchHere items (c :: (before ++ after))).or (searchBefore items before after)

/-- **The leftmost occurrence begins in the first part or in the second.** -/
theorem search_append (items : List (Item α)) (before after : List α) :
    search items (before ++ after) = (searchBefore items before after).or (search items after) := by
  induction before with
  | nil => rfl
  | cons c before ih => rw [List.cons_append, search, searchBefore, ih, Option.or_assoc]

/-- An occurrence at the start of a text is the leftmost one. -/
theorem search_of_matchHere {items : List (Item α)} {s kept : List α}
    (h : matchHere items s = some kept) : search items s = some kept := by
  cases s with
  | nil => exact h
  | cons c s => rw [search, h, Option.some_or]

/-- An occurrence of a first part, and then one of the rest. -/
theorem matchHere_one {p : α → Bool} {c : α} (h : p c = true) (keep : Bool)
    (items : List (Item α)) (s : List α) :
    matchHere (.one p keep :: items) (c :: s)
      = (matchHere items s).map fun kept => if keep then c :: kept else kept := by
  rw [matchHere, if_pos h]

/-- A symbol that may be missing and is. -/
theorem matchHere_maybe {p : α → Bool} {c : α} (h : p c = false) (items : List (Item α))
    (s : List α) : matchHere (.maybe p :: items) (c :: s) = matchHere items (c :: s) := by
  rw [matchHere, if_neg (by rw [h]; exact Bool.false_ne_true)]

/-! ## What is kept -/

/-- The classes of the items that are kept. -/
def classes : List (Item α) → List (α → Bool)
  | [] => []
  | .one p keep :: items => if keep then p :: classes items else classes items
  | .maybe _ :: items => classes items

/-- The symbols are of the classes, one for one. -/
def Kept (ps : List (α → Bool)) (kept : List α) : Prop :=
  List.Forall₂ (fun p c => p c = true) ps kept

/-- **An occurrence keeps a symbol of each kept class.** -/
theorem matchHere_kept (items : List (Item α)) (s : List α) {kept : List α}
    (h : matchHere items s = some kept) : Kept (classes items) kept := by
  induction items, s using matchHere.induct generalizing kept with
  | case1 s =>
    cases Option.some.inj h
    exact .nil
  | case2 => cases h
  | case3 p keep items c s hp ih =>
    rw [matchHere_one hp, Option.map_eq_some_iff] at h
    obtain ⟨rest, hrest, rfl⟩ := h
    rw [classes]
    cases keep with
    | true => exact .cons hp (ih hrest)
    | false => exact ih hrest
  | case4 p keep items c s hp =>
    rw [matchHere, if_neg hp] at h
    cases h
  | case5 p items ih => exact ih h
  | case6 p items c s hp ihTaken ihLeft =>
    rw [matchHere, if_pos hp, Option.or_eq_some_iff] at h
    rcases h with h | ⟨_, h⟩
    · exact ihTaken h
    · exact ihLeft h
  | case7 p items c s hp ih =>
    rw [matchHere, if_neg hp] at h
    exact ih h

theorem searchBefore_kept {items : List (Item α)} (before after : List α) {kept : List α}
    (h : searchBefore items before after = some kept) : Kept (classes items) kept := by
  induction before with
  | nil => cases h
  | cons c before ih =>
    rw [searchBefore, Option.or_eq_some_iff] at h
    rcases h with h | ⟨_, h⟩
    · exact matchHere_kept items _ h
    · exact ih h

theorem search_kept {items : List (Item α)} (s : List α) {kept : List α}
    (h : search items s = some kept) : Kept (classes items) kept := by
  induction s with
  | nil => exact matchHere_kept items [] h
  | cons c s ih =>
    rw [search, Option.or_eq_some_iff] at h
    rcases h with h | ⟨_, h⟩
    · exact matchHere_kept items _ h
    · exact ih h

theorem Kept.replicate {p : α → Bool} {n : Nat} {kept : List α}
    (h : Kept (List.replicate n p) kept) : kept.length = n ∧ ∀ c ∈ kept, p c = true := by
  refine ⟨h.length_eq.symm.trans List.length_replicate, ?_⟩
  induction n generalizing kept with
  | zero =>
    cases h
    exact fun c hc => absurd hc List.not_mem_nil
  | succ n ih =>
    cases h with
    | cons hp h => exact List.forall_mem_cons.mpr ⟨hp, ih h⟩

end AutoDiag.Pattern

import Mathlib.Data.List.AList
import Mathlib.Order.Defs.LinearOrder

/-!
# Dictionaries that are filled in turn

A dictionary filled by a loop says of a key what a search of the items does: the first
item that has the key where the loop keeps what is there (`lookup_setdefaults`), the last
one where it replaces it (`lookup_updates`, `lookup_inserts`).
-/

namespace AutoDiag

/-- A dictionary, whose values all have one type. -/
abbrev Dict (κ υ : Type) := AList fun _ : κ => υ

namespace Dict

variable {κ υ : Type} [DecidableEq κ]

/-- The value of a key that is there stays as it is. -/
def setdefault (d : Dict κ υ) (k : κ) (v : υ) : Dict κ υ := if k ∈ d then d else d.insert k v

theorem lookup_setdefault (d : Dict κ υ) (k k' : κ) (v : υ) :
    (setdefault d k v).lookup k' = (d.lookup k').or (if k' = k then some v else none) := by
  by_cases hmem : k ∈ d
  · rw [setdefault, if_pos hmem]
    by_cases hk : k' = k
    · obtain ⟨w, hw⟩ := Option.isSome_iff_exists.mp (AList.lookup_isSome.mpr (hk ▸ hmem))
      rw [hw, Option.some_or]
    · rw [if_neg hk, Option.or_none]
  · rw [setdefault, if_neg hmem]
    by_cases hk : k' = k
    · rw [hk, AList.lookup_insert, AList.lookup_eq_none.mpr hmem, if_pos rfl, Option.none_or]
    · rw [AList.lookup_insert_ne hk, if_neg hk, Option.or_none]

/-- **The first item that has the key.** -/
theorem lookup_setdefaults [BEq κ] [LawfulBEq κ] (items : List (κ × υ)) (d : Dict κ υ)
    (k : κ) :
    (items.foldl (fun d item => setdefault d item.1 item.2) d).lookup k
      = (d.lookup k).or (items.lookup k) := by
  induction items generalizing d with
  | nil => exact (Option.or_none ..).symm
  | cons item items ih =>
    rw [List.foldl_cons, ih, lookup_setdefault, Option.or_assoc, List.lookup_cons]
    congr 1
    by_cases hk : k = item.1
    · rw [if_pos hk, beq_iff_eq.mpr hk, Option.some_or]
    · rw [if_neg hk, beq_false_of_ne hk, Option.none_or]

theorem lookup_union (d d' : Dict κ υ) (k : κ) :
    (d ∪ d').lookup k = (d.lookup k).or (d'.lookup k) := by
  by_cases hmem : k ∈ d
  · obtain ⟨v, hv⟩ := Option.isSome_iff_exists.mp (AList.lookup_isSome.mpr hmem)
    rw [AList.lookup_union_left hmem, hv, Option.some_or]
  · rw [AList.lookup_union_right hmem, AList.lookup_eq_none.mpr hmem, Option.none_or]

/-- **What the last of the dictionaries says that knows the key.** -/
theorem lookup_updates (ds : List (Dict κ υ)) (d : Dict κ υ) (k : κ) :
    (ds.foldl (fun d d' => d' ∪ d) d).lookup k
      = (ds.reverse.findSome? (AList.lookup k)).or (d.lookup k) := by
  induction ds generalizing d with
  | nil => rfl
  | cons d' ds ih =>
    rw [List.foldl_cons, ih, lookup_union, ← Option.or_assoc, List.reverse_cons,
      List.findSome?_append, List.findSome?_singleton]

/-- **The last item that has the key.** -/
theorem lookup_inserts [BEq κ] [LawfulBEq κ] (items : List (κ × υ)) (d : Dict κ υ) (k : κ) :
    (items.foldl (fun d item => d.insert item.1 item.2) d).lookup k
      = (items.reverse.lookup k).or (d.lookup k) := by
  induction items generalizing d with
  | nil => rfl
  | cons item items ih =>
    rw [List.foldl_cons, ih, List.reverse_cons, List.lookup_append, Option.or_assoc]
    congr 1
    by_cases hk : k = item.1
    · rw [hk, AList.lookup_insert, List.lookup_cons_self, Option.some_or]
    · rw [AList.lookup_insert_ne hk, List.lookup_cons, beq_false_of_ne hk]
      rfl

theorem entries_foldl_setdefault (items : List (κ × υ)) :
    (items.foldl (fun d item => setdefault d item.1 item.2) (∅ : Dict κ υ)).entries = []
      ↔ items = [] := by
  constructor
  · intro hempty
    cases items with
    | nil => rfl
    | cons item items =>
      have hlook := lookup_setdefaults (item :: items) (∅ : Dict κ υ) item.1
      rw [List.lookup_cons_self, AList.lookup_empty, Option.none_or, AList.lookup, hempty] at hlook
      cases hlook
  · intro hnil
    rw [hnil]
    rfl

/-! ## A dictionary rewritten -/

/-- The items sorted by their keys. -/
def sorted [LE κ] [DecidableLE κ] (d : Dict κ υ) : Dict κ υ where
  entries := d.entries.mergeSort fun a b => decide (a.1 ≤ b.1)
  nodupKeys := (List.perm_nodupKeys (List.mergeSort_perm ..)).mpr d.nodupKeys

theorem lookup_sorted [LE κ] [DecidableLE κ] (d : Dict κ υ) (k : κ) :
    d.sorted.lookup k = d.lookup k :=
  AList.perm_lookup (List.mergeSort_perm ..)

variable {ω : Type}

/-- Every value put through a function. -/
def mapValues (f : υ → ω) (d : Dict κ υ) : Dict κ ω where
  entries := d.entries.map fun item => ⟨item.1, f item.2⟩
  nodupKeys := by
    have hkeys : (d.entries.map fun item => (⟨item.1, f item.2⟩ : Σ _ : κ, ω)).keys
        = d.entries.keys := by
      rw [List.keys, List.map_map]
      rfl
    rw [List.NodupKeys, hkeys]
    exact d.nodupKeys

theorem lookup_mapValues (f : υ → ω) (d : Dict κ υ) (k : κ) :
    (d.mapValues f).lookup k = (d.lookup k).map f :=
  List.dlookup_map₂ (f := fun _ => f) k

end Dict

/-! ## A loop whose turns can only fail in one way -/

/-- **A loop comes to its end exactly where each turn can be made.** -/
theorem foldlM_guarded {σ α : Type} {f : σ → α → Option σ} {g : σ → α → σ} {p : α → Prop}
    [DecidablePred p] (h : ∀ s a, f s a = if p a then some (g s a) else none) (l : List α) (s : σ) :
    l.foldlM f s = if ∀ a ∈ l, p a then some (l.foldl g s) else none := by
  induction l generalizing s with
  | nil => rfl
  | cons a l ih =>
    rw [List.foldlM_cons, h]
    by_cases ha : p a
    · rw [if_pos ha]
      refine (ih (g s a)).trans ?_
      simp [ha]
    · rw [if_neg ha, if_neg fun hall => ha (hall a (List.mem_cons_self ..))]
      rfl

end AutoDiag

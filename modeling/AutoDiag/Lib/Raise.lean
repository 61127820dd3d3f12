import Mathlib.Data.List.Forall2

/-!
# Expressions that may raise

How a sequence of such expressions comes to its value or to its exception. A
proof takes the sequence apart with `bind_ok` and `bind_error` and puts it
together with the two simp lemmas. `Yields` is a postcondition on the values that
are returned, `Returns` and `ReturnsIff` say when one is, `Related` compares two
expressions, and `Covers` one with a stricter one, whose values it must return too;
each has one rule for each way to build an expression.
-/

namespace AutoDiag.Raise

variable {ε α β : Type}

@[simp] theorem ok_bind (a : α) (f : α → Except ε β) : ((Except.ok a : Except ε α) >>= f) = f a :=
  rfl

@[simp] theorem error_bind (e : ε) (f : α → Except ε β) :
    ((Except.error e : Except ε α) >>= f) = .error e := rfl

@[simp] theorem pure_eq_ok (a : α) : (pure a : Except ε α) = .ok a := rfl

/-- A sequence that returns has a first part that does. -/
theorem bind_ok {x : Except ε α} {f : α → Except ε β} {b : β} (h : (x >>= f) = .ok b) :
    ∃ a, x = .ok a ∧ f a = .ok b := by
  cases x with
  | error e => exact absurd h (by simp)
  | ok a => exact ⟨a, rfl, h⟩

/-- A sequence that raises does so in its first part, or after it. -/
theorem bind_error {x : Except ε α} {f : α → Except ε β} {e : ε} (h : (x >>= f) = .error e) :
    x = .error e ∨ ∃ a, x = .ok a ∧ f a = .error e := by
  cases x with
  | error e' =>
      have he : e' = e := Except.error.inj h
      exact .inl (by rw [he])
  | ok a => exact .inr ⟨a, rfl, h⟩

/-! ## Postconditions -/

/-- Every value that `x` returns satisfies `P`. -/
def Yields (P : α → Prop) (x : Except ε α) : Prop := ∀ a, x = .ok a → P a

theorem yields_ok {P : α → Prop} {a : α} (h : P a) : Yields P (.ok a : Except ε α) := by
  intro b hb
  cases hb
  exact h

theorem yields_pure {P : α → Prop} {a : α} (h : P a) : Yields P (pure a : Except ε α) :=
  yields_ok h

theorem yields_error {P : α → Prop} (e : ε) : Yields P (.error e : Except ε α) := by
  intro a h
  cases h

/-- What the first part returns is handed on with what is known of it. -/
theorem yields_bind_of {Q : α → Prop} {P : β → Prop} {x : Except ε α} {f : α → Except ε β}
    (hx : Yields Q x) (hf : ∀ a, Q a → Yields P (f a)) : Yields P (x >>= f) := by
  intro b hb
  obtain ⟨a, ha, hfa⟩ := bind_ok hb
  exact hf a (hx a ha) b hfa

theorem yields_bind {P : β → Prop} {x : Except ε α} {f : α → Except ε β}
    (hf : ∀ a, Yields P (f a)) : Yields P (x >>= f) :=
  yields_bind_of (Q := fun _ => True) (fun _ _ => trivial) fun a _ => hf a

theorem yields_ite {P : α → Prop} {c : Prop} [Decidable c] {x y : Except ε α}
    (hx : c → Yields P x) (hy : ¬ c → Yields P y) : Yields P (if c then x else y) := by
  split
  · rename_i h
    exact hx h
  · rename_i h
    exact hy h

/-! ## Expressions that do not raise -/

/-- `x` has a value. -/
def Returns (x : Except ε α) : Prop := ∃ a, x = .ok a

theorem returns_ok (a : α) : Returns (.ok a : Except ε α) := ⟨a, rfl⟩

theorem returns_pure (a : α) : Returns (pure a : Except ε α) := ⟨a, rfl⟩

theorem not_returns_error (e : ε) : ¬ Returns (.error e : Except ε α) := by
  rintro ⟨a, h⟩
  cases h

/-- What does not return raises. -/
theorem not_returns {x : Except ε α} : ¬ Returns x ↔ ∃ e, x = .error e := by
  cases x with
  | ok a => exact iff_of_false (not_not.mpr (returns_ok a)) (by rintro ⟨e, h⟩; cases h)
  | error e => exact iff_of_true (not_returns_error e) ⟨e, rfl⟩

/-- A sequence returns if its first part does and the rest does on what that gave. -/
theorem returns_bind {x : Except ε α} {f : α → Except ε β} (hx : Returns x)
    (hf : ∀ a, x = .ok a → Returns (f a)) : Returns (x >>= f) := by
  obtain ⟨a, rfl⟩ := hx
  exact hf a rfl

/-- A list is mapped without a fault if none of its items faults. -/
theorem returns_mapM {γ : Type} {f : γ → Except ε α} {l : List γ} (h : ∀ c ∈ l, Returns (f c)) :
    Returns (l.mapM f) := by
  induction l with
  | nil => exact returns_pure _
  | cons c l ih =>
    rw [List.mapM_cons]
    refine returns_bind (h c (List.mem_cons_self ..)) fun a _ => ?_
    exact returns_bind (ih fun d hd => h d (List.mem_cons_of_mem _ hd)) fun _ _ => returns_pure _

/-- A list of expressions that return. -/
theorem mapM_ok {γ : Type} {f : γ → Except ε α} {g : γ → α} {l : List γ}
    (h : ∀ c ∈ l, f c = .ok (g c)) : l.mapM f = .ok (l.map g) := by
  induction l with
  | nil => rfl
  | cons c l ih =>
    rw [List.mapM_cons, h c (List.mem_cons_self ..), ok_bind,
      ih fun d hd => h d (List.mem_cons_of_mem _ hd)]
    rfl

/-- What a list of expressions returned, item by item. -/
theorem mem_of_mapM {γ : Type} {f : γ → Except ε α} {l : List γ} {as : List α}
    (h : l.mapM f = .ok as) {a : α} : a ∈ as ↔ ∃ c ∈ l, f c = .ok a := by
  induction l generalizing as with
  | nil =>
    cases h
    simp
  | cons c l ih =>
    rw [List.mapM_cons] at h
    obtain ⟨b, hb, h⟩ := bind_ok h
    obtain ⟨bs, hbs, h⟩ := bind_ok h
    cases h
    simp only [List.mem_cons, exists_eq_or_imp, ih hbs, hb, Except.ok.injEq, eq_comm (a := a)]

/-- `x` returns exactly if `P` holds, and raises one of the exceptions `E` otherwise. -/
inductive ReturnsIff (E : ε → Prop) (P : Prop) : Except ε α → Prop where
  | ok {a : α} : P → ReturnsIff E P (.ok a)
  | error {e : ε} : ¬ P → E e → ReturnsIff E P (.error e)

section ReturnsIff

variable {E : ε → Prop} {P Q : Prop} {x y : Except ε α} {f : α → Except ε β}

theorem returnsIff_of_returns (h : Returns x) (hp : P) : ReturnsIff E P x := by
  obtain ⟨a, rfl⟩ := h
  exact .ok hp

/-- What the code accepts, read off the rule it follows. -/
theorem ReturnsIff.iff (h : ReturnsIff E P x) : Returns x ↔ P := by
  cases h with
  | ok hp => exact iff_of_true (returns_ok _) hp
  | error hp _ => exact iff_of_false (not_returns_error _) hp

theorem ReturnsIff.congr (h : ReturnsIff E P x) (hpq : P ↔ Q) : ReturnsIff E Q x := by
  cases h with
  | ok hp => exact .ok (hpq.mp hp)
  | error hp he => exact .error (fun hq => hp (hpq.mpr hq)) he

theorem ReturnsIff.mono {E' : ε → Prop} (h : ReturnsIff E P x) (hE : ∀ e, E e → E' e) :
    ReturnsIff E' P x := by
  cases h with
  | ok hp => exact .ok hp
  | error hp he => exact .error hp (hE _ he)

/-- Both parts have to return. -/
theorem returnsIff_bind (hx : ReturnsIff E P x) (hf : ∀ a, x = .ok a → ReturnsIff E Q (f a)) :
    ReturnsIff E (P ∧ Q) (x >>= f) := by
  cases hx with
  | ok hp => exact (hf _ rfl).congr ⟨fun hq => ⟨hp, hq⟩, fun hpq => hpq.2⟩
  | error hp he => exact .error (fun hpq => hp hpq.1) he

/-- What goes on whatever the first part returns stops only there. -/
theorem returnsIff_bind_left (hx : ReturnsIff E P x) (hf : ∀ a, x = .ok a → Returns (f a)) :
    ReturnsIff E P (x >>= f) :=
  (returnsIff_bind hx fun a ha => returnsIff_of_returns (hf a ha) trivial).congr
    (and_iff_left trivial)

theorem returnsIff_bind_right (hx : Returns x) (hf : ∀ a, x = .ok a → ReturnsIff E Q (f a)) :
    ReturnsIff E Q (x >>= f) := by
  obtain ⟨a, rfl⟩ := hx
  exact hf a rfl

/-- A case that returns leaves the condition to the other one. -/
theorem returnsIff_ite {c : Prop} [Decidable c] (hx : Returns x) (hy : ¬ c → ReturnsIff E P y) :
    ReturnsIff E (¬ c → P) (if c then x else y) := by
  by_cases hc : c
  · rw [if_pos hc]
    exact returnsIff_of_returns hx fun h => absurd hc h
  · rw [if_neg hc]
    exact (hy hc).congr ⟨fun h _ => h, fun h => h hc⟩

end ReturnsIff

/-! ## Two expressions side by side -/

/-- Both return, and what they return is related, or both raise. -/
inductive Related {ε' : Type} (R : α → β → Prop) : Except ε α → Except ε' β → Prop where
  | ok {a : α} {b : β} : R a b → Related R (.ok a) (.ok b)
  | error (e : ε) (e' : ε') : Related R (.error e) (.error e')

section Related

variable {ε' α' β' : Type} {R : α → β → Prop} {S : α' → β' → Prop}

theorem related_ok {a : α} {b : β} (h : R a b) :
    Related R (.ok a : Except ε α) (.ok b : Except ε' β) := .ok h

theorem related_pure {a : α} {b : β} (h : R a b) :
    Related R (pure a : Except ε α) (pure b : Except ε' β) := .ok h

theorem related_error (e : ε) (e' : ε') :
    Related R (.error e : Except ε α) (.error e' : Except ε' β) := .error e e'

/-- Two related runs both raise, or both return related values. -/
theorem related_cases {x : Except ε α} {y : Except ε' β} (h : Related R x y) :
    (∃ e e', x = .error e ∧ y = .error e') ∨ ∃ a b, x = .ok a ∧ y = .ok b ∧ R a b := by
  cases h with
  | ok h => exact .inr ⟨_, _, rfl, rfl, h⟩
  | error e e' => exact .inl ⟨e, e', rfl, rfl⟩

/-- One returns where the other does. -/
theorem related_returns {x : Except ε α} {y : Except ε' β} (h : Related R x y) :
    Returns y ↔ Returns x := by
  cases h with
  | ok _ => exact iff_of_true (returns_ok _) (returns_ok _)
  | error _ _ => exact iff_of_false (not_returns_error _) (not_returns_error _)

theorem related_returnsIff {x : Except ε α} {y : Except ε' β} {E : ε → Prop} {P : Prop}
    (h : Related R x y) (hx : ReturnsIff E P x) : ReturnsIff (fun _ => True) P y := by
  cases hx with
  | ok hp =>
    cases h with
    | ok _ => exact .ok hp
  | error hp _ =>
    cases h with
    | error _ _ => exact .error hp trivial

/-- The values are also known to be the ones returned. -/
theorem related_returned {x : Except ε α} {y : Except ε' β} (h : Related R x y) :
    Related (fun a b => R a b ∧ x = .ok a ∧ y = .ok b) x y := by
  cases h with
  | ok h => exact .ok ⟨h, rfl, rfl⟩
  | error e e' => exact .error e e'

/-- Related values are handed on. -/
theorem related_bind {x : Except ε α} {y : Except ε' β} {f : α → Except ε α'}
    {g : β → Except ε' β'} (hxy : Related R x y) (hfg : ∀ a b, R a b → Related S (f a) (g b)) :
    Related S (x >>= f) (y >>= g) := by
  cases hxy with
  | ok h => exact hfg _ _ h
  | error e e' => exact .error e e'

theorem related_ite {c d : Prop} [Decidable c] [Decidable d] {x x' : Except ε α}
    {y y' : Except ε' β} (hcd : c ↔ d) (h : c → Related R x y) (h' : ¬ c → Related R x' y') :
    Related R (if c then x else x') (if d then y else y') := by
  by_cases hc : c
  · rw [if_pos hc, if_pos (hcd.mp hc)]
    exact h hc
  · rw [if_neg hc, if_neg fun hd => hc (hcd.mpr hd)]
    exact h' hc

/-- Two maps over one list are related if they are at each item. -/
theorem related_mapM {γ : Type} {l : List γ} {f : γ → Except ε α} {g : γ → Except ε' β}
    (h : ∀ c ∈ l, Related R (f c) (g c)) :
    Related (List.Forall₂ R) (l.mapM f) (l.mapM g) := by
  induction l with
  | nil => exact related_pure .nil
  | cons c l ih =>
    rw [List.mapM_cons, List.mapM_cons]
    refine related_bind (h c (List.mem_cons_self ..)) fun a b hab => ?_
    refine related_bind (ih fun d hd => h d (List.mem_cons_of_mem _ hd)) fun as bs habs => ?_
    exact related_pure (.cons hab habs)

end Related

/-! ## One expression that covers another -/

section Covers

variable {ε' α' β' : Type} {R : α → β → Prop} {S : α' → β' → Prop}

/-- Whatever `y` returns, `x` returns what is related to it; where `y` raises, `x` may do
anything. -/
def Covers (R : α → β → Prop) (x : Except ε α) (y : Except ε' β) : Prop :=
  ∀ b, y = .ok b → ∃ a, x = .ok a ∧ R a b

theorem covers_ok {a : α} {b : β} (h : R a b) :
    Covers R (.ok a : Except ε α) (.ok b : Except ε' β) := by
  intro _ hb
  cases hb
  exact ⟨a, rfl, h⟩

/-- A run that is related to another one covers it. -/
theorem Related.covers {x : Except ε α} {y : Except ε' β} (h : Related R x y) : Covers R x y := by
  intro b hb
  cases h with
  | ok h =>
    cases hb
    exact ⟨_, rfl, h⟩
  | error _ _ => cases hb

theorem covers_bind {x : Except ε α} {y : Except ε' β} {f : α → Except ε α'}
    {g : β → Except ε' β'} (hxy : Covers R x y) (hfg : ∀ a b, R a b → Covers S (f a) (g b)) :
    Covers S (x >>= f) (y >>= g) := by
  intro b' hb'
  cases y with
  | error e => cases hb'
  | ok b =>
    obtain ⟨a, rfl, hab⟩ := hxy b rfl
    exact hfg a b hab b' hb'

/-- Only the other one can raise at this place. -/
theorem covers_bind_right {x : Except ε α'} {y : Except ε' β} {g : β → Except ε' β'}
    (h : ∀ b, y = .ok b → Covers S x (g b)) : Covers S x (y >>= g) := by
  intro b' hb'
  cases y with
  | error e => cases hb'
  | ok b => exact h b rfl b' hb'

theorem covers_ite {c d : Prop} [Decidable c] [Decidable d] {x x' : Except ε α}
    {y y' : Except ε' β} (hcd : c ↔ d) (h : c → Covers R x y) (h' : ¬ c → Covers R x' y') :
    Covers R (if c then x else x') (if d then y else y') := by
  by_cases hc : c
  · rw [if_pos hc, if_pos (hcd.mp hc)]
    exact h hc
  · rw [if_neg hc, if_neg fun hd => hc (hcd.mpr hd)]
    exact h' hc

end Covers

end AutoDiag.Raise

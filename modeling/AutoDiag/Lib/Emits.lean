import AutoDiag.Lib.Call
import AutoDiag.Lib.Runs
import Mathlib.Data.List.Forall2

/-!
# What a call adds to a log

A state has a log that only grows. `Emits log P x` says what `x` adds to it and how `x`
ends: the two stand in the relation `P`. The rules follow the sequencing of calls
(`Emits.bind`), and a series of calls adds the parts that its calls add, in their order
(`series_emits`). With `EmitsFrom` the relation also speaks of the state a call is made in, and
with `EmitsUnder` a call adds a beginning of what it would add if it came through.
-/

namespace AutoDiag.Call

variable {ε σ α β γ ω κ : Type} {log : σ → List κ}

/-- However `x` ends, what it adds to the log goes with that end. -/
def Emits (log : σ → List κ) (P : Except ε α → List κ → Prop) (x : Call ε σ α) : Prop :=
  ∀ s, ∃ ws, log (x s).2 = log s ++ ws ∧ P (x s).1 ws

section Rules

variable {P : Except ε α → List κ → Prop} {Q : Except ε β → List κ → Prop}

theorem Emits.mono {P' : Except ε α → List κ → Prop} {x : Call ε σ α} (h : Emits log P x)
    (hP : ∀ r ws, P r ws → P' r ws) : Emits log P' x := by
  intro s
  obtain ⟨ws, hlog, hws⟩ := h s
  exact ⟨ws, hlog, hP _ _ hws⟩

/-- A call that leaves the state alone adds nothing. -/
theorem emits_ofExcept {r : Except ε α} (h : P r []) :
    Emits log P (ofExcept r : Call ε σ α) := fun _ => ⟨[], (List.append_nil _).symm, h⟩

theorem emits_pure {a : α} (h : P (.ok a) []) : Emits log P (pure a : Call ε σ α) :=
  emits_ofExcept h

theorem emits_raise {e : ε} (h : P (.error e) []) : Emits log P (raise e : Call ε σ α) :=
  emits_ofExcept h

/-- The first part's additions come first; where it raises, they are all. -/
theorem Emits.bind {x : Call ε σ α} {f : α → Call ε σ β} (hx : Emits log P x)
    (herror : ∀ e ws, P (.error e) ws → Q (.error e) ws)
    (hf : ∀ a ws, P (.ok a) ws → Emits log (fun r vs => Q r (ws ++ vs)) (f a)) :
    Emits log Q (x >>= f) := by
  intro s
  obtain ⟨ws, hlog, hws⟩ := hx s
  cases hr : x s with
  | mk r s' =>
    rw [hr] at hlog hws
    cases r with
    | error e =>
      rw [bind_run_error hr]
      exact ⟨ws, hlog, herror e ws hws⟩
    | ok a =>
      obtain ⟨vs, hmore, hvs⟩ := hf a ws hws s'
      rw [bind_run_ok hr]
      exact ⟨ws ++ vs, by rw [hmore, hlog, List.append_assoc], hvs⟩

/-- What is made of the value of a call adds nothing. -/
theorem Emits.map {p : List κ → Prop} {x : Call ε σ α} (h : Emits log (fun _ ws => p ws) x)
    (k : α → β) : Emits log (fun _ ws => p ws) (k <$> x) := by
  refine h.bind (fun _ _ hws => hws) fun a ws hws => emits_pure ?_
  rwa [List.append_nil]

/-- `x` adds `ws`; where it raises, it has added a beginning of it. -/
def EmitsUpTo (log : σ → List κ) (ws : List κ) (x : Call ε σ α) : Prop :=
  Emits log (fun r vs => vs <+: ws ∧ ((∃ a, r = .ok a) → vs = ws)) x

theorem EmitsUpTo.bind {ws vs : List κ} {x : Call ε σ α} {f : α → Call ε σ β}
    (hx : EmitsUpTo log ws x) (hf : ∀ a, EmitsUpTo log vs (f a)) :
    EmitsUpTo log (ws ++ vs) (x >>= f) := by
  refine Emits.bind hx ?_ ?_
  · intro e us hus
    exact ⟨hus.1.trans (List.prefix_append ws vs), fun ⟨_, h⟩ => nomatch h⟩
  · intro a us hus
    obtain rfl := hus.2 ⟨a, rfl⟩
    refine (hf a).mono ?_
    intro r us' h
    exact ⟨(List.prefix_append_right_inj us).mpr h.1, fun hr => congrArg (us ++ ·) (h.2 hr)⟩

theorem emitsUpTo_pure (a : α) : EmitsUpTo log [] (pure a : Call ε σ α) :=
  emits_pure ⟨List.prefix_rfl, fun _ => rfl⟩

/-- The turns of a loop add their parts in order, up to one that raises. -/
theorem emitsUpTo_foldlM {f : β → γ → Call ε σ β} {g : γ → List κ}
    (h : ∀ b c, EmitsUpTo log (g c) (f b c)) (b : β) (cs : List γ) :
    EmitsUpTo log (cs.flatMap g) (cs.foldlM f b) := by
  induction cs generalizing b with
  | nil => exact emitsUpTo_pure b
  | cons c cs ih =>
    rw [List.foldlM_cons, List.flatMap_cons]
    exact (h b c).bind ih

end Rules

/-! ## From a state on -/

section From

variable {R : σ → σ → Prop} {P : σ → Except ε α → List κ → Prop} {Q : σ → α → Prop}
  {ws vs : List κ}

/-- `x` goes to related states only; the state it begins in, its end and what it adds go
together. -/
def EmitsFrom (log : σ → List κ) (R : σ → σ → Prop) (P : σ → Except ε α → List κ → Prop)
    (x : Call ε σ α) : Prop :=
  ∀ s, ∃ us, log (x s).2 = log s ++ us ∧ R s (x s).2 ∧ P s (x s).1 us

theorem EmitsFrom.bind {V : α → σ → Except ε β → List κ → Prop}
    {P'' : σ → Except ε β → List κ → Prop} {x : Call ε σ α} {f : α → Call ε σ β}
    (hR : ∀ {s s' s''}, R s s' → R s' s'' → R s s'') (hx : EmitsFrom log R P x)
    (hf : ∀ a, EmitsFrom log R (V a) (f a))
    (herror : ∀ {s e us}, P s (.error e) us → P'' s (.error e) us)
    (hok : ∀ {s s' a us r us'}, P s (.ok a) us → R s s' → V a s' r us' → P'' s r (us ++ us')) :
    EmitsFrom log R P'' (x >>= f) := by
  intro s
  obtain ⟨us, hlog, hr, hp⟩ := hx s
  cases hrun : x s with
  | mk r s' =>
    rw [hrun] at hlog hr hp
    cases r with
    | error e =>
      rw [bind_run_error hrun]
      exact ⟨us, hlog, hr, herror hp⟩
    | ok a =>
      obtain ⟨us', hlog', hr', hp'⟩ := hf a s'
      rw [bind_run_ok hrun]
      exact ⟨us ++ us', by rw [hlog', hlog, List.append_assoc], hR hr hr', hok hp hr hp'⟩

/-- `x` adds a beginning of `ws`. Where it returns, it has added all of `ws`, and `Q` holds of
the state it began in and its value. -/
def EmitsUnder (log : σ → List κ) (R : σ → σ → Prop) (Q : σ → α → Prop) (ws : List κ)
    (x : Call ε σ α) : Prop :=
  EmitsFrom log R (fun s r us => us <+: ws ∧ ∀ a, r = .ok a → us = ws ∧ Q s a) x

theorem emitsUnder_pure (hR : ∀ s, R s s) {a : α} (h : ∀ s, Q s a) :
    EmitsUnder log R Q [] (pure a : Call ε σ α) := by
  refine fun s => ⟨[], (List.append_nil _).symm, hR s, List.prefix_rfl, fun b hb => ⟨rfl, ?_⟩⟩
  cases hb
  exact h s

theorem EmitsUnder.mono {Q' : σ → α → Prop} {x : Call ε σ α} (h : EmitsUnder log R Q ws x)
    (hQ : ∀ s a, Q s a → Q' s a) : EmitsUnder log R Q' ws x := by
  intro s
  obtain ⟨us, hlog, hr, hus, hok⟩ := h s
  exact ⟨us, hlog, hr, hus, fun a ha => ⟨(hok a ha).1, hQ s a (hok a ha).2⟩⟩

theorem EmitsUnder.bind {U : α → σ → β → Prop} {Q'' : σ → β → Prop} {x : Call ε σ α}
    {f : α → Call ε σ β} (hR : ∀ {s s' s''}, R s s' → R s' s'' → R s s'')
    (hx : EmitsUnder log R Q ws x) (hf : ∀ a, EmitsUnder log R (U a) vs (f a))
    (hback : ∀ {s s' a b}, Q s a → R s s' → U a s' b → Q'' s b) :
    EmitsUnder log R Q'' (ws ++ vs) (x >>= f) := by
  refine EmitsFrom.bind hR hx hf ?_ ?_
  · intro s e us hus
    exact ⟨hus.1.trans (List.prefix_append ws vs), fun _ hb => nomatch hb⟩
  · intro s s' a us r us' hus hr hus'
    obtain ⟨rfl, hq⟩ := hus.2 a rfl
    refine ⟨(List.prefix_append_right_inj us).mpr hus'.1, fun b hb => ?_⟩
    obtain ⟨rfl, hq'⟩ := hus'.2 b hb
    exact ⟨rfl, hback hq hr hq'⟩

end From

/-- **A series of calls adds the parts that its calls add.** -/
theorem series_emits {f : ω → Call ε σ α} {p : ω → List κ → Prop}
    (h : ∀ op, Emits log (fun _ ws => p op ws) (f op)) (ops : List ω) (s : σ) :
    ∃ parts, List.Forall₂ p ops parts
      ∧ log (Runs.after (fun s op => (f op s).2) s ops) = log s ++ parts.flatten := by
  induction ops generalizing s with
  | nil => exact ⟨[], .nil, (List.append_nil _).symm⟩
  | cons op ops ih =>
    obtain ⟨ws, hlog, hws⟩ := h op s
    obtain ⟨parts, hparts, hrest⟩ := ih (f op s).2
    refine ⟨ws :: parts, .cons hws hparts, hrest.trans ?_⟩
    rw [hlog, List.flatten_cons, List.append_assoc]

end AutoDiag.Call

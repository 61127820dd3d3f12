import AutoDiag.Proof.Exchange
import AutoDiag.Security.Unlock

/-!
# What a successful unlock proves

`unlock` reports success on two grounds: the seed was zero, or the ECU took the
key. The first is decided by `any`, which is false of an empty seed as well, so
a reply too short to hold a seed byte passes for an unlocked ECU.
-/

namespace AutoDiag.Proof

open Client Security

variable {σ : Type}

/-- The client of either family over a logged transport. -/
def loggedClient (f : Family) (t : Transport σ) (maxPending : Nat) :
    SeedKeyClient (σ × List Exchange) :=
  seedKeyClient ⟨f, t.logged, maxPending⟩

theorem requestSeed_eq (f : Family) (t : Transport σ) (maxPending : Nat) (level : Int) :
    (loggedClient f t maxPending).securityAccessRequestSeed level
      = Uds.securityAccessRequestSeed (logged ⟨f, t, maxPending⟩) level := by
  cases f <;> rfl

theorem sendKey_eq (f : Family) (t : Transport σ) (maxPending : Nat) (level : Int) (key : Bytes) :
    (loggedClient f t maxPending).securityAccessSendKey level key
      = Uds.securityAccessSendKey (logged ⟨f, t, maxPending⟩) level key := by
  cases f <;> rfl

/-- **Asking for a seed**: nothing happens, or one exchange whose positive reply holds it. -/
theorem requestSeed_logged (c : Client σ) (level : Int) (s : σ) (log : List Exchange) :
    (∃ e, Uds.securityAccessRequestSeed (logged c) level (s, log) = (.error e, s, log))
      ∨ ∃ res s' ds, Uds.securityAccessRequestSeed (logged c) level (s, log)
          = (res, s', log ++ .sent [0x27, Py.lowByte level] :: ds.map .delivered)
        ∧ ∀ seed, res = .ok seed ↔ ∃ rest, lastReply ds = some (0x67 :: rest)
            ∧ rest.drop 1 = seed := by
  by_cases hr : 0 ≤ level ∧ level < 256
  · refine Or.inr ?_
    obtain ⟨res, s', ds, hsend, hres⟩ := @send_logged _ c 0x27 (by decide)
      [Py.lowByte level] s log
    refine ⟨res.map (List.drop 1), s', ds, ?_, ?_⟩
    · rw [Uds.securityAccessRequestSeed_of_range _ hr]
      cases res with
      | error e => exact Call.bind_run_error hsend
      | ok rest => exact (Call.bind_run_ok hsend).trans rfl
    · intro seed
      cases res with
      | error e =>
          refine ⟨fun h => by simp [Except.map] at h, ?_⟩
          intro h
          obtain ⟨rest, hlast, _⟩ := h
          exact absurd ((hres rest).mpr hlast) (by simp)
      | ok rest =>
          have hlast := (hres rest).mp rfl
          constructor
          · intro h
            exact ⟨rest, hlast, Except.ok.inj h⟩
          · intro h
            obtain ⟨rest', hlast', rfl⟩ := h
            rw [hlast] at hlast'
            rw [(List.cons.inj (Option.some.inj hlast')).2]
            rfl
  -- the level is no byte, so nothing is sent
  · refine Or.inl ⟨.valueError "bytes must be in range(0, 256)", ?_⟩
    rw [Uds.securityAccessRequestSeed_of_not_range _ hr]
    rfl

/-- **Sending a key**: nothing happens, or one exchange, and success is a positive reply. -/
theorem sendKey_logged (c : Client σ) (level : Int) (key : Bytes) (s : σ) (log : List Exchange) :
    (∃ e, Uds.securityAccessSendKey (logged c) level key (s, log) = (.error e, s, log))
      ∨ ∃ res s' ds, Uds.securityAccessSendKey (logged c) level key (s, log)
          = (res, s', log ++ .sent (0x27 :: Py.lowByte (level + 1) :: key) :: ds.map .delivered)
        ∧ (res = .ok () → ∃ rest, lastReply ds = some (0x67 :: rest)) := by
  by_cases hr : 0 ≤ level + 1 ∧ level + 1 < 256
  · refine Or.inr ?_
    obtain ⟨res, s', ds, hsend, hres⟩ := @send_logged _ c 0x27 (by decide)
      (Py.lowByte (level + 1) :: key) s log
    cases res with
    | error e =>
        refine ⟨.error e, s', ds, ?_, fun h => by simp at h⟩
        rw [Uds.securityAccessSendKey_of_range _ _ hr]
        exact Call.bind_run_error hsend
    | ok rest =>
        refine ⟨.ok (), s', ds, ?_, fun _ => ⟨rest, (hres rest).mp rfl⟩⟩
        rw [Uds.securityAccessSendKey_of_range _ _ hr]
        exact (Call.bind_run_ok hsend).trans rfl
  · refine Or.inl ⟨.valueError "bytes must be in range(0, 256)", ?_⟩
    rw [Uds.securityAccessSendKey_of_not_range _ _ hr]
    rfl

/-- One unlock over a logged transport: the outcome, and the exchanges it consisted of. -/
def runUnlock (lib : Library) (f : Family) (t : Transport σ) (maxPending : Nat) (s : σ)
    (ecuName : String) (level : Int) : Except Exn Bool × List (Bytes × Option Bytes) :=
  let run := unlock lib (loggedClient f t maxPending) ecuName level (s, [])
  (run.1, answers run.2.2)

theorem runUnlock_of {lib : Library} {f : Family} {t : Transport σ} {maxPending : Nat} {s s' : σ}
    {ecuName : String} {level : Int} {r : Except Exn Bool} {log : List Exchange}
    (h : unlock lib (loggedClient f t maxPending) ecuName level (s, []) = (r, s', log)) :
    runUnlock lib f t maxPending s ecuName level = (r, answers log) := by
  unfold runUnlock
  rw [h]

/-- The exchanges of an unlock that was earned: a zero seed, or the right key accepted. -/
inductive Earned (lib : Library) (ecuName : String) (level : Int) :
    List (Bytes × Option Bytes) → Prop where
  | zeroSeed {b : UInt8} {seed : Bytes} : seed ≠ [] → (∀ x ∈ seed, x = 0) →
      Earned lib ecuName level [([0x27, Py.lowByte level], some (0x67 :: b :: seed))]
  | keyAccepted {b : UInt8} {seed key rest : Bytes} :
      computeKey lib ecuName level seed none = .ok key →
      Earned lib ecuName level [([0x27, Py.lowByte level], some (0x67 :: b :: seed)),
        (0x27 :: Py.lowByte (level + 1) :: key, some (0x67 :: rest))]

/-- The reply to the seed request, if it is a positive one, holds a byte of seed. -/
def SeedGiven (level : Int) (run : List (Bytes × Option Bytes)) : Prop :=
  ∀ reply, run.head? = some ([0x27, Py.lowByte level], some reply) → reply.head? = some 0x67 →
    3 ≤ reply.length

theorem seedGiven_nil (level : Int) : SeedGiven level [] := by
  intro reply h
  simp at h

theorem seedGiven_cons {level : Int} {last : Option Bytes} {run : List (Bytes × Option Bytes)}
    (h : ∀ rest, last = some (0x67 :: rest) → rest.drop 1 ≠ []) :
    SeedGiven level (([0x27, Py.lowByte level], last) :: run) := by
  intro reply hhead hpos
  simp only [List.head?_cons, Option.some.injEq, Prod.mk.injEq, true_and] at hhead
  obtain ⟨rest, rfl⟩ : ∃ rest, reply = 0x67 :: rest := by
    cases reply with
    | nil => simp at hpos
    | cons b rest => exact ⟨rest, by rw [Option.some.inj hpos]⟩
  have hpos := List.length_pos_iff.mpr (h rest hhead)
  simp only [List.length_drop, List.length_cons] at hpos ⊢
  omega

theorem not_seedGiven_cons {level : Int} {rest : Bytes} {run : List (Bytes × Option Bytes)}
    (h : rest.drop 1 = []) :
    ¬ SeedGiven level (([0x27, Py.lowByte level], some (0x67 :: rest)) :: run) := by
  intro hgiven
  have hlen := hgiven _ rfl rfl
  have hnil := congrArg List.length h
  simp only [List.length_drop, List.length_nil, List.length_cons] at hlen hnil
  omega

theorem seed_reply {rest seed : Bytes} (h : rest.drop 1 = seed) (hne : seed ≠ []) :
    ∃ b, rest = b :: seed := by
  cases rest with
  | nil => exact absurd h.symm hne
  | cons b rest =>
    rw [List.drop_succ_cons, List.drop_zero] at h
    exact ⟨b, by rw [h]⟩

theorem seedGiven_reply {level : Int} {b : UInt8} {seed : Bytes}
    {run : List (Bytes × Option Bytes)} (hne : seed ≠ []) :
    SeedGiven level (([0x27, Py.lowByte level], some (0x67 :: b :: seed)) :: run) := by
  refine seedGiven_cons ?_
  intro rest h
  obtain ⟨-, rfl⟩ := List.cons.inj (Option.some.inj h)
  exact hne

/-- The outcome of an unlock after the seed request, by the seed. -/
theorem unlock_seed (lib : Library) (c : SeedKeyClient σ) (ecuName : String) (level : Int)
    {seed : Bytes} {s s' : σ} (h : c.securityAccessRequestSeed level s = (.ok seed, s')) :
    ((∀ x ∈ seed, x = 0) ∧ unlock lib c ecuName level s = (.ok true, s'))
      ∨ (seed ≠ [] ∧ (∃ e, computeKey lib ecuName level seed none = .error e
          ∧ unlock lib c ecuName level s = (.error e, s')))
      ∨ (seed ≠ [] ∧ ∃ key, computeKey lib ecuName level seed none = .ok key
          ∧ unlock lib c ecuName level s
            = ((c.securityAccessSendKey level key s').1.map fun _ => true,
              (c.securityAccessSendKey level key s').2)) := by
  have hstart : unlock lib c ecuName level s = _ := Call.bind_run_ok h
  -- `not any(seed)`: also true when there is no byte at all
  by_cases hz : seed.any (· ≠ 0) = false
  · refine Or.inl ⟨?_, hstart.trans ?_⟩
    · intro x hx
      have hx0 := List.any_eq_false.mp hz x hx
      simpa using hx0
    · rw [if_pos hz]
      rfl
  · have hne : seed ≠ [] := by
      rintro rfl
      exact hz rfl
    rw [if_neg hz] at hstart
    cases hk : computeKey lib ecuName level seed none with
    | error e =>
        refine Or.inr (Or.inl ⟨hne, e, rfl, hstart.trans ?_⟩)
        exact Call.bind_run_error (by rw [hk]; rfl)
    | ok key =>
        refine Or.inr (Or.inr ⟨hne, key, rfl, hstart.trans ?_⟩)
        refine (Call.bind_run_ok (a := key) (by rw [hk]; rfl)).trans ?_
        cases hs : c.securityAccessSendKey level key s' with
        | mk r s'' =>
            cases r with
            | error e => exact Call.bind_run_error hs
            | ok u => exact (Call.bind_run_ok hs).trans rfl

/--
The rest of an unlock that computed a key: the seed exchange stands first in the
run, and success means that the key, sent next, got a positive reply.
-/
theorem runUnlock_key {lib : Library} {f : Family} {t : Transport σ} {maxPending : Nat} {s s' : σ}
    {ecuName : String} {level : Int} {key seed : Bytes} {b : UInt8}
    {ds : List (List EcuResponse)} (hlast : lastReply ds = some (0x67 :: b :: seed))
    (hkey : computeKey lib ecuName level seed none = .ok key)
    (hrun : unlock lib (loggedClient f t maxPending) ecuName level (s, [])
      = (((loggedClient f t maxPending).securityAccessSendKey level key
            (s', .sent [0x27, Py.lowByte level] :: ds.map .delivered)).1.map fun _ => true,
          ((loggedClient f t maxPending).securityAccessSendKey level key
            (s', .sent [0x27, Py.lowByte level] :: ds.map .delivered)).2)) :
    ∃ run, (runUnlock lib f t maxPending s ecuName level).2
        = ([0x27, Py.lowByte level], some (0x67 :: b :: seed)) :: run
      ∧ ((runUnlock lib f t maxPending s ecuName level).1 = .ok true →
          Earned lib ecuName level (runUnlock lib f t maxPending s ecuName level).2) := by
  rw [sendKey_eq] at hrun
  rcases sendKey_logged ⟨f, t, maxPending⟩ level key s'
    (.sent [0x27, Py.lowByte level] :: ds.map .delivered) with
    ⟨e, hsend⟩ | ⟨res, s'', ds', hsend, hres⟩
  · -- the level has no key request: nothing was sent, and the unlock raises
    rw [hsend] at hrun
    rw [runUnlock_of hrun, answers_one, hlast]
    refine ⟨[], rfl, ?_⟩
    intro h
    cases h
  · rw [hsend] at hrun
    rw [runUnlock_of hrun, answers_sent _ ds (by simp [Exchange.delivered?]), answers_one, hlast]
    refine ⟨_, rfl, ?_⟩
    intro h
    cases res with
    | error e => cases h
    | ok u =>
      obtain ⟨rest, hlast'⟩ := hres rfl
      rw [hlast']
      exact .keyAccepted hkey

/-- The requests an unlock makes: the one for a seed, and the one with the key to it. -/
theorem runUnlock_requests (lib : Library) (f : Family) (t : Transport σ) (maxPending : Nat)
    (s : σ) (ecuName : String) (level : Int) :
    ∀ x ∈ (runUnlock lib f t maxPending s ecuName level).2, x.1 = [0x27, Py.lowByte level]
      ∨ ∃ seed key, computeKey lib ecuName level seed none = .ok key
        ∧ x.1 = 0x27 :: Py.lowByte (level + 1) :: key := by
  intro x hx
  rcases requestSeed_logged ⟨f, t, maxPending⟩ level s [] with
    ⟨e, hseed⟩ | ⟨res, s', ds, hseed, -⟩
  · rw [← requestSeed_eq] at hseed
    rw [runUnlock_of (Call.bind_run_error hseed)] at hx
    simp [answers] at hx
  rw [← requestSeed_eq, List.nil_append] at hseed
  cases res with
  | error e =>
    rw [runUnlock_of (Call.bind_run_error hseed), answers_one] at hx
    exact .inl (congrArg Prod.fst (List.mem_singleton.mp hx))
  | ok seed =>
    rcases unlock_seed lib (loggedClient f t maxPending) ecuName level hseed with
      ⟨-, hrun⟩ | ⟨-, e, -, hrun⟩ | ⟨-, key, hkey, hrun⟩
    · rw [runUnlock_of hrun, answers_one] at hx
      exact .inl (congrArg Prod.fst (List.mem_singleton.mp hx))
    · rw [runUnlock_of hrun, answers_one] at hx
      exact .inl (congrArg Prod.fst (List.mem_singleton.mp hx))
    · rw [sendKey_eq] at hrun
      rcases sendKey_logged ⟨f, t, maxPending⟩ level key s'
        (.sent [0x27, Py.lowByte level] :: ds.map .delivered) with
        ⟨e, hsend⟩ | ⟨res, s'', ds', hsend, -⟩
      · rw [hsend] at hrun
        rw [runUnlock_of hrun, answers_one] at hx
        exact .inl (congrArg Prod.fst (List.mem_singleton.mp hx))
      · rw [hsend] at hrun
        rw [runUnlock_of hrun, answers_sent _ ds (by simp [Exchange.delivered?]),
          answers_one] at hx
        rcases List.mem_cons.mp hx with rfl | hx
        · exact .inl rfl
        · exact .inr ⟨seed, key, hkey, congrArg Prod.fst (List.mem_singleton.mp hx)⟩

/--
**Unlock succeeds only with cause exactly when the seed reply holds a seed.** In
particular a reply `67` or `67 <level>` is reported as an unlocked ECU.
-/
theorem runUnlock_earned_iff (lib : Library) (f : Family) (t : Transport σ) (maxPending : Nat)
    (s : σ) (ecuName : String) (level : Int) :
    ((runUnlock lib f t maxPending s ecuName level).1 = .ok true →
        Earned lib ecuName level (runUnlock lib f t maxPending s ecuName level).2)
      ↔ SeedGiven level (runUnlock lib f t maxPending s ecuName level).2 := by
  rcases requestSeed_logged ⟨f, t, maxPending⟩ level s [] with
    ⟨e, hseed⟩ | ⟨res, s', ds, hseed, hres⟩
  · rw [← requestSeed_eq] at hseed
    -- the level is no byte: nothing was sent
    rw [runUnlock_of (Call.bind_run_error hseed)]
    exact ⟨fun _ => seedGiven_nil level, fun _ h => absurd h (by simp)⟩
  rw [← requestSeed_eq, List.nil_append] at hseed
  cases res with
  -- the seed request was refused or not answered
  | error e =>
    rw [runUnlock_of (Call.bind_run_error hseed), answers_one]
    refine ⟨fun _ => seedGiven_cons ?_, fun _ h => absurd h (by simp)⟩
    intro rest hlast
    exact absurd ((hres _).mpr ⟨rest, hlast, rfl⟩) (by simp)
  | ok seed =>
    obtain ⟨rest, hlast, hdrop⟩ := (hres seed).mp rfl
    rcases unlock_seed lib (loggedClient f t maxPending) ecuName level hseed with
      ⟨hzero, hrun⟩ | ⟨hne, e, hkey, hrun⟩ | ⟨hne, key, hkey, hrun⟩
    · rw [runUnlock_of hrun, answers_one, hlast]
      by_cases hnil : seed = []
      · -- the vacuous case of `any`: neither ground for success is there
        refine iff_of_false ?_ (not_seedGiven_cons (hdrop.trans hnil))
        intro h
        cases h rfl with
        | zeroSeed hne => exact hne (hdrop.trans hnil)
      · obtain ⟨b, rfl⟩ := seed_reply hdrop hnil
        exact iff_of_true (fun _ => .zeroSeed hnil hzero) (seedGiven_reply hnil)
    · -- no key could be computed: the unlock raises
      obtain ⟨b, rfl⟩ := seed_reply hdrop hne
      rw [runUnlock_of hrun, answers_one, hlast]
      refine iff_of_true ?_ (seedGiven_reply hne)
      intro h
      cases h
    · obtain ⟨b, rfl⟩ := seed_reply hdrop hne
      -- the key is sent, and only its acceptance returns true
      obtain ⟨run, hanswers, hearned⟩ := runUnlock_key hlast hkey hrun
      refine iff_of_true hearned ?_
      rw [hanswers]
      exact seedGiven_reply hne

def seedless : Transport Unit where
  request _ _ := pure [⟨0x7E8, [0x67, 0x01]⟩]
  receive := pure []

/-- **A seed reply without a seed unlocks.** -/
theorem runUnlock_seedless :
    ¬ ∀ (lib : Library) (f : Family) (σ : Type) (t : Transport σ) (maxPending : Nat) (s : σ)
      (ecuName : String) (level : Int),
      (runUnlock lib f t maxPending s ecuName level).1 = .ok true →
        Earned lib ecuName level (runUnlock lib f t maxPending s ecuName level).2 := by
  intro h
  have hrun : runUnlock ⟨[], fun _ => none, id, id⟩ .uds seedless 10 () "ECU" 1
      = (.ok true, [([0x27, 0x01], some [0x67, 0x01])]) := by
    decide
  have hearned := h ⟨[], fun _ => none, id, id⟩ .uds Unit seedless 10 () "ECU" 1 (by rw [hrun])
  rw [hrun] at hearned
  cases hearned with
  | zeroSeed hne => exact hne rfl

end AutoDiag.Proof

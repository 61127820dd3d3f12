import AutoDiag.Protocol.Client

/-!
# What one request does

`send_logged` says everything a proof above needs to know about a client's
`_send`: the log grows by the request and the deliveries it read, and the call
returns exactly when the message it ended on starts with the service's positive
response id. Nothing above this file unfolds the pending loop.
-/

namespace AutoDiag.Proof

open Client

variable {σ : Type}

/-- The client over the same transport, with its traffic logged. -/
def logged (c : Client σ) : Client (σ × List Exchange) :=
  ⟨c.family, c.transport.logged, c.maxPending⟩

theorem logged_receive {c : Client σ} {s s' : σ} {r : Except Exn (List EcuResponse)}
    (h : c.transport.receive s = (r, s')) (log : List Exchange) :
    (logged c).transport.receive (s, log) = (r, s', log ++ delivery r) := by
  show (_, _, _) = _
  rw [h]

theorem logged_request {c : Client σ} {payload : Bytes} {functional : Bool} {s s' : σ}
    {r : Except Exn (List EcuResponse)} (h : c.transport.request payload functional s = (r, s'))
    (log : List Exchange) :
    (logged c).transport.request payload functional (s, log)
      = (r, s', log ++ .sent payload :: delivery r) := by
  show (_, _, _) = _
  rw [h]

/-- The reply that counts is the last one. -/
theorem lastReply_cons {d : List EcuResponse} {ds : List (List EcuResponse)} (h : ds ≠ []) :
    lastReply (d :: ds) = lastReply ds := by
  obtain ⟨d', ds', rfl⟩ := List.exists_cons_of_ne_nil h
  rw [lastReply, List.getLast?_cons_cons]
  rfl

/-- The message an exchange ends on that has come to `resp` before the deliveries `ds`. -/
def endsOn (resp : Bytes) (ds : List (List EcuResponse)) : Option Bytes :=
  if ds = [] then some resp else lastReply ds

@[simp] theorem endsOn_nil (resp : Bytes) : endsOn resp [] = some resp := rfl

theorem lastReply_eq_endsOn {m : Bytes} {d : List EcuResponse} {ds : List (List EcuResponse)}
    (h : firstData d = some m) : lastReply (d :: ds) = endsOn m ds := by
  unfold endsOn
  by_cases hds : ds = []
  · subst hds
    exact h
  · rw [if_neg hds, lastReply_cons hds]

theorem endsOn_cons {resp m : Bytes} {d : List EcuResponse} {ds : List (List EcuResponse)}
    (h : firstData d = some m) : endsOn resp (d :: ds) = endsOn m ds := by
  rw [endsOn, if_neg (List.cons_ne_nil d ds), lastReply_eq_endsOn h]

/-- The loop that stood at `resp` read `ds` and returned `res`: the last message, if not pending. -/
def ReturnsFinal (resp : Bytes) (ds : List (List EcuResponse)) (res : Except Exn Bytes) : Prop :=
  ∀ m, res = .ok m ↔ isPending m = false ∧ endsOn resp ds = some m

theorem returnsFinal_ok {resp : Bytes} (h : isPending resp = false) :
    ReturnsFinal resp [] (.ok resp) := by
  intro m
  rw [endsOn_nil, Except.ok.injEq, Option.some.injEq]
  constructor
  · intro hm
    exact ⟨hm ▸ h, hm⟩
  · exact And.right

/-- An exchange that ends on a pending message, or on none, returns nothing. -/
theorem returnsFinal_error {resp : Bytes} {ds : List (List EcuResponse)}
    (h : ∀ m, endsOn resp ds = some m → isPending m = true) (e : Exn) :
    ReturnsFinal resp ds (.error e) := by
  intro m
  constructor
  · intro hm
    cases hm
  · intro hm
    have hpending := h m hm.2
    rw [hm.1] at hpending
    cases hpending

theorem returnsFinal_pending {resp : Bytes} (h : isPending resp = true) (e : Exn) :
    ReturnsFinal resp [] (.error e) := by
  refine returnsFinal_error ?_ e
  intro m hm
  rw [endsOn_nil, Option.some.injEq] at hm
  rw [← hm]
  exact h

theorem returnsFinal_silent {resp : Bytes} {more : List EcuResponse} (h : firstData more = none)
    (e : Exn) : ReturnsFinal resp [more] (.error e) := by
  refine returnsFinal_error ?_ e
  intro m hm
  have hnone : endsOn resp [more] = none := h
  rw [hnone] at hm
  cases hm

theorem returnsFinal_cons {resp m : Bytes} {more : List EcuResponse}
    {ds : List (List EcuResponse)} {res : Except Exn Bytes} (h : firstData more = some m)
    (hds : ReturnsFinal m ds res) : ReturnsFinal resp (more :: ds) res := by
  intro m'
  rw [hds, endsOn_cons h]

theorem awaitFinal_logged_final (c : Client σ) (left : Nat) {resp : Bytes}
    (h : isPending resp = false) (s : σ) (log : List Exchange) :
    ∃ res s' ds, (logged c).awaitFinal left resp (s, log)
        = (res, s', log ++ ds.map .delivered) ∧ ReturnsFinal resp ds res := by
  refine ⟨.ok resp, s, [], ?_, returnsFinal_ok h⟩
  rw [awaitFinal_final _ _ h]
  simp

/-- **The pending loop returns exactly the first message that is not pending.** -/
theorem awaitFinal_logged (c : Client σ) :
    ∀ (left : Nat) (resp : Bytes) (s : σ) (log : List Exchange),
      ∃ res s' ds, (logged c).awaitFinal left resp (s, log)
          = (res, s', log ++ ds.map .delivered) ∧ ReturnsFinal resp ds res := by
  intro left
  induction left with
  | zero =>
    intro resp s log
    cases hp : isPending resp with
    | false => exact awaitFinal_logged_final c 0 hp s log
    | true =>
      -- no receive is left: the loop gives up without another delivery
      refine ⟨.error (c.family.exn (.timeout "too many responsePending (0x78) replies")), s, [],
        ?_, returnsFinal_pending hp _⟩
      rw [awaitFinal_exhausted _ hp, List.map_nil, List.append_nil]
      rfl
  | succ left ih =>
    intro resp s log
    cases hp : isPending resp with
    | false => exact awaitFinal_logged_final c (left + 1) hp s log
    | true =>
      cases hr : c.transport.receive s with
      | mk r s₁ =>
        have hrec := logged_receive hr log
        cases r with
        | error e =>
          -- the transport raised: nothing further was delivered
          refine ⟨.error e, s₁, [], ?_, returnsFinal_pending hp e⟩
          rw [awaitFinal, if_pos hp, Call.bind_run_error hrec]
          rfl
        | ok more =>
          cases hf : firstData more with
          | none =>
            exact ⟨_, s₁, [more], awaitFinal_silent _ left hp hrec hf, returnsFinal_silent hf _⟩
          | some resp' =>
            obtain ⟨res, s', ds, hrun, hres⟩ := ih resp' s₁ (log ++ delivery (.ok more))
            refine ⟨res, s', more :: ds, ?_, returnsFinal_cons hf hres⟩
            rw [awaitFinal_next _ left hp hrec hf, hrun]
            simp [delivery]

/-- The result of the loop, judged as the answer to service `sid`: its positive replies only. -/
theorem settled_ok_iff (f : Family) {sid : UInt8} (hsid : sid + 0x40 ≠ 0x7F) {resp : Bytes}
    {ds : List (List EcuResponse)} {res : Except Exn Bytes} (h : ReturnsFinal resp ds res)
    (rest : Bytes) :
    (res >>= settle f sid) = .ok rest ↔ endsOn resp ds = some ((sid + 0x40) :: rest) := by
  cases res with
  | error e =>
    constructor
    · intro hrest
      cases hrest
    · intro hend
      have hok := (h _).mpr ⟨not_pending_of_positive hsid, hend⟩
      cases hok
  | ok m =>
    obtain ⟨-, hm⟩ := (h m).mp rfl
    have hsettle : ((.ok m : Except Exn Bytes) >>= settle f sid) = settle f sid m := rfl
    rw [hsettle, settle_ok_iff hsid, hm, Option.some.injEq]

/--
**What a request does.** The log grows by the request and the deliveries read for
it, and the call returns exactly the rest of a positive reply that ended them.
-/
theorem send_logged (c : Client σ) {sid : UInt8} (hsid : sid + 0x40 ≠ 0x7F) (data : Bytes)
    (s : σ) (log : List Exchange) :
    ∃ res s' ds, (logged c).send sid data true (s, log)
        = (res, s', log ++ .sent (sid :: data) :: ds.map .delivered)
      ∧ ∀ rest, res = .ok rest ↔ lastReply ds = some ((sid + 0x40) :: rest) := by
  cases hr : c.transport.request (sid :: data) false s with
  | mk r s₁ =>
    have hreq := logged_request hr log
    cases r with
    | error e =>
        refine ⟨.error e, s₁, [], Call.bind_run_error hreq, ?_⟩
        intro rest
        exact ⟨fun h => by simp at h, fun h => by simp [lastReply] at h⟩
    | ok rs =>
      cases hf : firstData rs with
      -- no reply has data: the request ends in the timeout
      | none =>
        have hnone : lastReply [rs] = none := hf
        refine ⟨_, s₁, [rs], (Call.bind_run_ok hreq).trans (Call.bind_run_error
          (by rw [pick_of_none hf]; rfl)), fun rest => ?_⟩
        rw [hnone]
        exact ⟨fun h => by simp at h, fun h => by simp at h⟩
      -- there is a first reply, and the client waits while it says pending
      | some resp =>
        obtain ⟨res, s', ds, hrun, hres⟩ := awaitFinal_logged c c.maxPending resp s₁
          (log ++ .sent (sid :: data) :: delivery (.ok rs))
        have hlog : log ++ .sent (sid :: data) :: delivery (.ok rs) ++ ds.map .delivered
            = log ++ .sent (sid :: data) :: (rs :: ds).map .delivered := by
          simp [delivery]
        rw [hlog] at hrun
        refine ⟨res >>= settle c.family sid, s', rs :: ds, ?_, ?_⟩
        · cases res with
          | error e => exact send_of_no_final (logged c) hreq hf hrun
          | ok m => exact send_of_final (logged c) hreq hf hrun
        · intro rest
          rw [settled_ok_iff c.family hsid hres, lastReply_eq_endsOn hf]

/-! ## Exchanges that end on a positive reply -/

/-- The exchange that a request opens ends on a message, when all pending ones are over. -/
def Concludes (c : Client σ) (request : Bytes) (s : σ) (m : Bytes) (s' : σ) : Prop :=
  ∃ rs s₁ first, c.transport.request request false s = (.ok rs, s₁)
    ∧ firstData rs = some first ∧ c.awaitFinal c.maxPending first s₁ = (.ok m, s')

/-- **A positive reply is returned without its first byte.** -/
theorem send_of_positive {c : Client σ} {sid : UInt8} (hsid : sid + 0x40 ≠ 0x7F)
    {data rest : Bytes} {s s' : σ}
    (h : Concludes c (sid :: data) s ((sid + 0x40) :: rest) s') :
    c.send sid data true s = (.ok rest, s') := by
  obtain ⟨rs, s₁, first, hreq, hfirst, hawait⟩ := h
  rw [send_of_final c hreq hfirst hawait, (settle_ok_iff hsid).mpr rfl]

/-- A positive reply that comes at once. -/
theorem concludes_at_once {c : Client σ} {request m : Bytes} {s s' : σ} {rs : List EcuResponse}
    (hreq : c.transport.request request false s = (.ok rs, s')) (hfirst : firstData rs = some m)
    (h : isPending m = false) : Concludes c request s m s' :=
  ⟨rs, s', m, hreq, hfirst, awaitFinal_final c c.maxPending h s'⟩

end AutoDiag.Proof

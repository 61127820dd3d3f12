import AutoDiag.Lib.Emits
import AutoDiag.Proof.Exchange
import AutoDiag.Proof.KwpRequests
import AutoDiag.Proof.Operations
import AutoDiag.Proof.SupportedPids
import AutoDiag.Proof.Unlock

/-!
# What a session puts on the bus

A service sends its one request, or none if that cannot be built, and never repeats it:
waiting through pending replies sends nothing. So whatever the vehicle answers, the
requests of a session are those of its operations, in their order (`session_requests`).
-/

namespace AutoDiag.Proof

open Call Client Obd2

variable {σ : Type}

/-- The payload of a request. -/
def Exchange.sent? : Exchange → Option Bytes
  | .sent payload => some payload
  | .delivered _ => none

/-- The requests of a logged transport, in order. -/
def sentLog (s : σ × List Exchange) : List Bytes := s.2.filterMap Exchange.sent?

/-- The request that is built, if it can be. -/
def built (x : Except Exn Bytes) : List Bytes := x.toOption.toList

def Request.payload (r : Request) : Bytes := r.sid :: r.data

/-! ## One request -/

theorem sentLog_delivery (r : Except Exn (List EcuResponse)) :
    (delivery r).filterMap Exchange.sent? = [] := by
  cases r <;> rfl

/-- A request is one entry of the log, whatever comes of it. -/
theorem emits_request (t : Transport σ) (payload : Bytes) (functional : Bool) :
    Emits sentLog (fun _ ws => ws = [payload]) (t.logged.request payload functional) := by
  intro s
  refine ⟨[payload], ?_, rfl⟩
  show (s.2 ++ .sent payload :: delivery (t.request payload functional s.1).1).filterMap _ = _
  rw [List.filterMap_append, List.filterMap_cons_some (f := Exchange.sent?) (b := payload) rfl,
    sentLog_delivery]
  rfl

/-- A further read sends nothing. -/
theorem emits_receive (t : Transport σ) :
    Emits sentLog (fun _ ws => ws = []) t.logged.receive := by
  intro s
  refine ⟨[], ?_, rfl⟩
  show (s.2 ++ delivery _).filterMap Exchange.sent? = _
  rw [List.filterMap_append, sentLog_delivery]
  rfl

/-- Waiting for the final reply sends nothing. -/
theorem emits_awaitFinal (c : Client σ) (left : Nat) (resp : Bytes) :
    Emits sentLog (fun _ ws => ws = []) ((logged c).awaitFinal left resp) := by
  induction left generalizing resp with
  | zero =>
    rw [awaitFinal]
    split
    · exact emits_raise rfl
    · exact emits_pure rfl
  | succ left ih =>
    rw [awaitFinal]
    split
    · refine (emits_receive c.transport).bind (fun _ _ h => h) ?_
      rintro more _ rfl
      refine Emits.bind (P := fun _ ws => ws = []) (emits_ofExcept rfl) (fun _ _ h => h) ?_
      rintro resp _ rfl
      exact ih resp
    · exact emits_pure rfl

/-- One message, sent once, before anything is waited for. -/
theorem emits_send (c : Client σ) (sid : UInt8) (data : Bytes) (expect : Bool) :
    Emits sentLog (fun _ ws => ws = [sid :: data]) ((logged c).send sid data expect) := by
  refine (emits_request c.transport _ _).bind (fun _ _ h => h) ?_
  rintro responses _ rfl
  split
  · exact emits_pure rfl
  · refine Emits.bind (P := fun _ ws => ws = []) (emits_ofExcept rfl) (by simp) ?_
    rintro resp _ rfl
    refine (emits_awaitFinal c _ resp).bind (by simp) ?_
    rintro resp _ rfl
    refine Emits.bind (P := fun _ ws => ws = []) (emits_ofExcept rfl) (by simp) ?_
    rintro _ _ rfl
    exact emits_pure rfl

/-! ## The services of the clients -/

theorem emits_sendsOnce {α : Type} {c : Client σ} {x : Call Exn (σ × List Exchange) α}
    {request : Except Exn Request} (h : SendsOnce (logged c) x request) :
    Emits sentLog (fun _ ws => ws = built (request.map Request.payload)) x := by
  obtain ⟨finish, rfl⟩ := h
  cases request with
  | error e => exact emits_raise rfl
  | ok r =>
    refine (emits_send c r.sid r.data r.expectResponse).bind (fun _ _ h => h) ?_
    rintro data _ rfl
    exact emits_pure rfl

/-- What is made of the answer does not matter. -/
theorem ignore_map {α β : Type} (k : α → β) (x : Call Exn σ α) : ignore (k <$> x) = ignore x :=
  Call.bind_assoc x _ _

theorem emits_of_ignore {α : Type} {p : List Bytes → Prop} {x : Call Exn (σ × List Exchange) α}
    (h : Emits sentLog (fun _ ws => p ws) (ignore x)) : Emits sentLog (fun _ ws => p ws) x := by
  intro s
  obtain ⟨ws, hlog, hws⟩ := h s
  cases hx : x s with
  | mk r s' =>
    have hrun : ignore x s = (r >>= fun _ => pure (), s') := map_run hx
    rw [hrun] at hlog
    exact ⟨ws, hlog, hws⟩

theorem UdsCall.run_eq_answer (c : Client σ) (u : UdsCall) : u.run c = ignore (u.answer c) := by
  cases u <;> exact (ignore_map _ _).symm

theorem KwpCall.run_eq_answer (c : Client σ) (u : KwpCall) : u.run c = ignore (u.answer c) := by
  cases u <;> exact (ignore_map _ _).symm

/-! ## J1979 -/

/-- A request that is built first; reading the replies sends nothing. -/
theorem emits_asked {α : Type} (t : Transport σ) (payload : Except Exn Bytes)
    (read : List EcuResponse → Except Exn α) :
    Emits sentLog (fun _ ws => ws = built payload)
      (do
        let req ← Call.ofExcept payload
        let responses ← t.logged.request req true
        Call.ofExcept (read responses)) := by
  cases payload with
  | error e => exact emits_raise rfl
  | ok req =>
    refine (emits_request t req true).bind (fun _ _ h => h) ?_
    rintro rs _ rfl
    exact emits_ofExcept rfl

/-- The request for a PID of mode 01. -/
def pidRequest (pid : Nat) : Bytes := [0x01, UInt8.ofNat pid]

theorem built_pid {pid : Nat} (h : pid < 256) :
    built (Py.bytesOf [0x01, (pid : Int)]) = [pidRequest pid] := by
  rw [bytesOf_base h]
  rfl

/-- PIDs in ascending order, all of them above the first of the bases that are left. -/
def Above (bases pids : List Nat) : Prop :=
  pids.Pairwise (· < ·) ∧ ∀ p ∈ pids, ∃ b ∈ bases, b < p

/-- Behind the last range there is nothing. -/
theorem above_nil (bases : List Nat) : Above bases [] :=
  ⟨.nil, fun _ h => absurd h List.not_mem_nil⟩

theorem above_pidsOf (base : Nat) (bases : List Nat) (bits : Nat) :
    Above (base :: bases) (pidsOf base bits) := by
  constructor
  · refine List.Pairwise.map _ ?_ (List.pairwise_lt_range.filter _)
    intro i j hij
    omega
  · intro p hp
    exact ⟨base, List.mem_cons_self, (mem_pidsOf.mp hp).1⟩

/-- The PIDs of a range come before those of the ranges behind it. -/
theorem Above.append {base bits : Nat} {bases more : List Nat} (hbase : ∀ b ∈ bases, base + 32 ≤ b)
    (h : Above bases more) : Above (base :: bases) (pidsOf base bits ++ more) := by
  have hone := above_pidsOf base bases bits
  constructor
  · refine List.pairwise_append.mpr ⟨hone.1, h.1, ?_⟩
    intro p hp q hq
    obtain ⟨b, hb, hlt⟩ := h.2 q hq
    calc p ≤ base + 32 := (mem_pidsOf.mp hp).2.1
      _ ≤ b := hbase b hb
      _ < q := hlt
  · intro p hp
    rcases List.mem_append.mp hp with hp | hp
    · exact hone.2 p hp
    · obtain ⟨b, hb, hlt⟩ := h.2 p hp
      exact ⟨b, List.mem_cons_of_mem base hb, hlt⟩

/-- The walk through the ranges asks for each of them at most once, in their order. -/
theorem emits_supportedFrom (t : Transport σ) {bases : List Nat} (hlt : ∀ b ∈ bases, b < 256)
    (hfar : bases.Pairwise fun a b => a + 32 ≤ b) :
    Emits sentLog
      (fun r ws => ws <+: bases.map pidRequest ∧ ∀ pids, r = .ok pids → Above bases pids)
      (supportedFrom t.logged bases) := by
  induction bases with
  | nil =>
    refine emits_pure ⟨List.nil_prefix, ?_⟩
    intro pids h
    obtain rfl := Except.ok.inj h
    exact above_nil []
  | cons base bases ih =>
    obtain ⟨hbase, hfar⟩ := List.pairwise_cons.mp hfar
    have ih := ih (fun b hb => hlt b (List.mem_cons_of_mem base hb)) hfar
    have hone : [pidRequest base] <+: (base :: bases).map pidRequest :=
      List.prefix_append [pidRequest base] (bases.map pidRequest)
    refine Emits.bind (P := fun r ws => ws = [] ∧ r = .ok (pidRequest base))
      (emits_ofExcept ⟨rfl, bytesOf_base (hlt base List.mem_cons_self)⟩)
      (fun _ _ h => nomatch h.2) ?_
    intro req _ hreq
    obtain ⟨rfl, hreq⟩ := hreq
    obtain rfl := Except.ok.inj hreq
    refine (emits_request t (pidRequest base) true).bind ?_ ?_
    · intro e ws hws
      exact ⟨hws ▸ hone, fun _ h => nomatch h⟩
    intro rs ws hws
    obtain rfl := hws
    split
    · refine emits_pure ⟨hone, ?_⟩
      intro pids h
      obtain rfl := Except.ok.inj h
      exact above_nil _
    · dsimp only
      split
      -- the next range is itself supported, so the walk goes on
      · refine ih.bind ?_ ?_
        · intro e ws hws
          exact ⟨(List.prefix_cons_inj _).mpr hws.1, fun _ h => nomatch h⟩
        intro more ws hws
        refine emits_pure ⟨?_, ?_⟩
        · rw [List.append_nil]
          exact (List.prefix_cons_inj _).mpr hws.1
        · intro pids h
          obtain rfl := Except.ok.inj h
          exact (hws.2 more rfl).append hbase
      · refine emits_pure ⟨hone, ?_⟩
        intro pids h
        obtain rfl := Except.ok.inj h
        exact above_pidsOf base bases _

/-- The PID is in the table. -/
def known (pid : Nat) : Bool := (Pids.find pid).isSome

/-- A PID of the table is a byte. -/
theorem known_lt {pid : Nat} (h : known pid = true) : pid < 256 := by
  obtain ⟨spec, hspec⟩ := Option.isSome_iff_exists.mp h
  have hpid : spec.pid = pid := by simpa using List.find?_some hspec
  have hall : ∀ spec ∈ Pids.pids, spec.pid < 256 := by simp [Pids.pids]
  exact hpid ▸ hall spec (List.mem_of_find?_eq_some hspec)

/-- A PID is one byte, and asked for once. -/
theorem emits_readPid (t : Transport σ) {pid : Nat} (h : pid < 256) :
    EmitsUpTo sentLog [pidRequest pid] (Obd2.readPid t.logged pid) := by
  refine (emits_asked t _ _).mono ?_
  intro r ws hws
  obtain rfl := hws.trans (built_pid h)
  exact ⟨List.prefix_rfl, fun _ => rfl⟩

/-- A PID in the table is asked for, and no other. -/
theorem emits_scanPid (t : Transport σ) (out : List (String × Str)) (pid : Nat) :
    EmitsUpTo sentLog (if known pid then [pidRequest pid] else []) (scanPid t.logged out pid) := by
  rw [scanPid]
  cases hfind : Pids.find pid with
  | none =>
    rw [if_neg (by rw [known, hfind]; decide)]
    exact emitsUpTo_pure out
  | some spec =>
    have hknown : known pid = true := by rw [known, hfind]; rfl
    rw [if_pos hknown, ← List.append_nil [pidRequest pid]]
    refine (emits_readPid t (known_lt hknown)).bind fun value => ?_
    cases value with
    | none => exact emitsUpTo_pure out
    | some value => exact emitsUpTo_pure _

/-- What an operation of J1979 may send. -/
def J1979Call.Sends : J1979Call → List Bytes → Prop
  | supportedPids, ws => ws <+: ranges.map pidRequest
  | readPid pid, ws => ws = built (Py.bytesOf [0x01, pid])
  -- the ranges, and then every known PID among the supported ones, once and in order
  | liveData, ws => ∃ (maps reads : List Bytes) (pids : List Nat),
    ws = maps ++ reads ∧ maps <+: ranges.map pidRequest
      ∧ reads <+: (pids.filter known).map pidRequest ∧ pids.Pairwise (· < ·)
  | freezeFrame pid frame, ws => ws = built (Py.bytesOf [0x02, pid, frame])
  | storedDtcs, ws => ws = [[0x03]]
  | pendingDtcs, ws => ws = [[0x07]]
  | permanentDtcs, ws => ws = [[0x0A]]
  | clearDtcs, ws => ws = [[0x04]]
  | monitorTestResults obdmid, ws => ws = built (Py.bytesOf [0x06, obdmid])
  | requestControl tid data, ws => ws = built ((Py.bytesOf [0x08, tid]).map (· ++ data))
  | vin, ws => ws = [[0x09, 0x02]]
  | calibrationIds, ws => ws = [[0x09, 0x04]]
  | cvn, ws => ws = [[0x09, 0x06]]

theorem ranges_far : ranges.Pairwise fun a b => a + 32 ≤ b := by decide

theorem flatMap_known (pids : List Nat) :
    (pids.flatMap fun pid => if known pid then [pidRequest pid] else [])
      = (pids.filter known).map pidRequest := by
  induction pids with
  | nil => rfl
  | cons pid pids ih =>
    rw [List.flatMap_cons, ih, List.filter_cons]
    split <;> rfl

theorem emits_scanLiveData (t : Transport σ) :
    Emits sentLog (fun _ ws => J1979Call.liveData.Sends ws) (scanLiveData t.logged) := by
  refine (emits_supportedFrom t (by decide) ranges_far).bind ?_ ?_
  · intro e ws hws
    exact ⟨ws, [], [], (List.append_nil ws).symm, hws.1, List.nil_prefix, .nil⟩
  · intro pids ws hws
    refine (emitsUpTo_foldlM (emits_scanPid t) [] pids).mono ?_
    intro r vs hvs
    exact ⟨ws, vs, pids, rfl, hws.1, flatMap_known pids ▸ hvs.1, (hws.2 pids rfl).1⟩

/-- A request with fixed bytes, and whatever is made of the replies. -/
theorem emits_fixed {α : Type} (t : Transport σ) (payload : Bytes)
    {f : List EcuResponse → Call Exn (σ × List Exchange) α}
    (hf : ∀ rs, Emits sentLog (fun _ ws => ws = []) (f rs)) :
    Emits sentLog (fun _ ws => ws = [payload]) (t.logged.request payload true >>= f) := by
  refine (emits_request t payload true).bind (fun _ _ h => h) ?_
  intro rs ws hws
  refine (hf rs).mono ?_
  intro _ vs hvs
  rw [hws, hvs, List.append_nil]

/-- Taking the replies apart sends nothing. -/
theorem emits_quiet {α β : Type} (x : Except Exn α) (k : α → β) :
    Emits sentLog (fun _ ws => ws = [])
      (do
        let a ← Call.ofExcept x
        return k a : Call Exn (σ × List Exchange) β) := by
  cases x with
  | error e => exact emits_raise rfl
  | ok a => exact emits_pure rfl

/-- Each operation sends its own requests, in the order of the source. -/
theorem J1979Call.emits (call : J1979Call) (t : Transport σ) :
    Emits sentLog (fun _ ws => call.Sends ws) (call.answer t.logged) := by
  cases call with
  | supportedPids =>
    exact ((emits_supportedFrom t (by decide) ranges_far).mono fun _ _ h => h.1).map _
  | readPid pid => exact (emits_asked t _ _).map _
  | liveData => exact (emits_scanLiveData t).map _
  | freezeFrame pid frame => exact (emits_asked t _ _).map _
  | storedDtcs => exact (emits_fixed t _ fun _ => emits_quiet _ _).map _
  | pendingDtcs => exact (emits_fixed t _ fun _ => emits_quiet _ _).map _
  | permanentDtcs => exact (emits_fixed t _ fun _ => emits_quiet _ _).map _
  | clearDtcs => exact (emits_fixed t _ fun _ => emits_ofExcept rfl).map _
  | monitorTestResults obdmid =>
    refine Emits.map ?_ _
    show Emits sentLog (fun _ ws => ws = built _) (Obd2.readMonitorTestResults t.logged obdmid)
    rw [Obd2.readMonitorTestResults]
    cases Py.bytesOf [0x06, obdmid] with
    | error e => exact emits_raise rfl
    | ok req => exact emits_fixed t _ fun _ => emits_quiet _ _
  | requestControl tid data =>
    refine Emits.map ?_ _
    show Emits sentLog (fun _ ws => ws = built _) (Obd2.requestControl t.logged tid data)
    rw [Obd2.requestControl]
    cases Py.bytesOf [0x08, tid] with
    | error e => exact emits_raise rfl
    | ok req => exact emits_fixed t _ fun _ => emits_ofExcept rfl
  | vin => exact (emits_fixed t _ fun _ => emits_ofExcept rfl).map _
  | calibrationIds => exact (emits_fixed t _ fun _ => emits_ofExcept rfl).map _
  | cvn => exact (emits_fixed t _ fun _ => emits_ofExcept rfl).map _

/-! ## Unlocking -/

/-- The request for a seed. -/
def seedRequest (level : Int) : List Bytes :=
  built ((UdsCall.builtRequest 0x27 (Py.bytesOf [level]) []).map Request.payload)

/-- The request that hands over a key. -/
def keyRequest (level : Int) (key : Bytes) : List Bytes :=
  built ((UdsCall.builtRequest 0x27 (Py.bytesOf [level + 1]) key).map Request.payload)

/-- What unlocking may send: a request for a seed, and behind it the key that belongs to one. -/
def UnlockSends (library : Security.Library) (ecuName : String) (level : Int) (ws : List Bytes) :
    Prop :=
  ws = seedRequest level ∨ ∃ seed key, (∃ b ∈ seed, b ≠ 0)
    ∧ Security.computeKey library ecuName level seed none = .ok key
    ∧ ws = seedRequest level ++ keyRequest level key

theorem emits_requestSeed (t : Transport σ) (f : Family) (maxPending : Nat) (level : Int) :
    Emits sentLog (fun _ ws => ws = seedRequest level)
      ((loggedClient f t maxPending).securityAccessRequestSeed level) := by
  rw [requestSeed_eq]
  exact emits_sendsOnce (sendsOnce_echoed 0x27 level)

theorem emits_sendKey (t : Transport σ) (f : Family) (maxPending : Nat) (level : Int)
    (key : Bytes) : Emits sentLog (fun _ ws => ws = keyRequest level key)
      ((loggedClient f t maxPending).securityAccessSendKey level key) := by
  rw [sendKey_eq]
  exact emits_sendsOnce (sendsOnce_key level key)

/-- The key is sent only if there is one, and that takes a seed. -/
theorem emits_unlock (library : Security.Library) (t : Transport σ) (f : Family)
    (maxPending : Nat) (ecuName : String) (level : Int) :
    Emits sentLog (fun _ ws => UnlockSends library ecuName level ws)
      (Security.unlock library (loggedClient f t maxPending) ecuName level) := by
  refine (emits_requestSeed t f maxPending level).bind (fun _ _ h => .inl h) ?_
  intro seed asked hasked
  obtain rfl := hasked
  have hseed : UnlockSends library ecuName level (seedRequest level ++ []) :=
    .inl (List.append_nil _)
  split
  · exact emits_pure hseed
  · next hzero =>
    cases hkey : Security.computeKey library ecuName level seed none with
    | error e => exact emits_raise hseed
    | ok key =>
      have hnonzero : ∃ b ∈ seed, b ≠ 0 := by simpa using hzero
      refine (emits_sendKey t f maxPending level key).bind ?_ ?_
      · intro e ws hws
        exact .inr ⟨seed, key, hnonzero, hkey, by rw [hws]⟩
      · intro _ ws hws
        refine emits_pure (.inr ⟨seed, key, hnonzero, hkey, ?_⟩)
        rw [hws, List.append_nil]

/-! ## Sessions -/

/-- What an operation may send. -/
def Operation.Sends (settings : Settings) : Operation → List Bytes → Prop
  | uds call, ws => ws = built (call.request.map Request.payload)
  | kwp call, ws => ws = built (call.request.map Request.payload)
  | j1979 call, ws => call.Sends ws
  | unlock _ ecuName level, ws => UnlockSends settings.library ecuName level ws

/-- By the kind of operation. -/
theorem Operation.emits (settings : Settings) (t : Transport σ) (op : Operation) :
    Emits sentLog (fun _ ws => op.Sends settings ws) (op.answer settings t.logged) := by
  cases op with
  | uds call =>
    refine emits_of_ignore ?_
    have hcall := emits_sendsOnce (sendsOnce call (logged (Uds.client t settings.maxPending)))
    rwa [UdsCall.run_eq_answer] at hcall
  | kwp call =>
    refine emits_of_ignore ?_
    have hcall := emits_sendsOnce
      (sendsOnce_kwp call (logged (Kwp2000.client t settings.maxPending)))
    rwa [KwpCall.run_eq_answer] at hcall
  | j1979 call => exact call.emits t
  | unlock f ecuName level =>
    exact (emits_unlock settings.library t f settings.maxPending ecuName level).map _

/--
**Nothing is sent twice.** Over any transport, whatever comes back over it, the requests
of a session are those of its operations, one after another: no operation repeats a
request, not even while it waits for one that is pending, and none sends what another
asked for.
-/
theorem session_requests (t : Transport σ) (settings : Settings) (ops : List Operation) (s : σ) :
    ∃ parts, List.Forall₂ (Operation.Sends settings) ops parts
      ∧ sentLog (Runs.after (fun s op => (Operation.answer settings t.logged op s).2) (s, []) ops)
        = parts.flatten :=
  series_emits (Operation.emits settings t) ops (s, [])

end AutoDiag.Proof

import AutoDiag.Obd.LiveFetch
import AutoDiag.Proof.LivePids
import Mathlib.Data.List.Nodup

/-!
# What a run of the live data returns

Wherever the run stops, `data` has the eight labels in their order, each with what its parser
makes of the text that was read after the command of that label. The commands are asked in a
fixed order, and of the entries those that the vehicle supports (`fetchLiveData_fetched`).
-/

namespace AutoDiag.Proof.LiveFetch

open Call LiveData Pattern

/-! ## The parsers raise nothing -/

/-- The groups of a match are digits, so that a parser gets its numbers. -/
theorem parse_returns {e : Entry} (he : e ∈ pidMap) (text : Str) :
    ∃ value, e.parser.parse text = .ok value := by
  obtain ⟨n, read, h⟩ := reads_entry e he
  obtain ⟨p, q, hpattern, _, _⟩ := h.pattern
  rw [Parser.parse]
  cases hsearch : search e.parser.pattern text with
  | none => exact ⟨none, rfl⟩
  | some digits =>
    have hkept := search_kept text hsearch
    have hclasses : classes (answer (.one p false) (.one q false) n)
        = List.replicate (2 * n) fun c => (Hex.value c).isSome := classes_groups n
    rw [hpattern, hclasses] at hkept
    refine ⟨some (read (Hex.toNat digits)), ?_⟩
    dsimp only
    rw [h.value digits hkept.replicate]
    rfl

theorem parseSupportedPids_returns (text : Str) :
    ∃ supportedPids, parseSupportedPids text = .ok supportedPids := by
  rw [parseSupportedPids]
  cases hsearch : search supportedPattern text with
  | none => exact ⟨[], rfl⟩
  | some digits =>
    have hkept : Kept (List.replicate 8 fun c => (Hex.value c).isSome) digits :=
      search_kept text hsearch
    have hdigits : Digits (2 * 4) digits := hkept.replicate
    exact ⟨_, commandsOf_eq hdigits.toNat_lt hdigits.intOfHex⟩

/-! ## What has been read -/

/-- What the parser of an entry makes of the text that was read after its command. -/
def told (exchanges : List (Str × Option Str)) (e : Entry) : Option Pids.Value :=
  match exchanges.lookup e.command with
  | some (some text) =>
    match e.parser.parse text with
    | .ok value => value
    | .error _ => none
  | _ => none

/-- The dictionary that goes with what has been read. -/
def dataOf (exchanges : List (Str × Option Str)) : List (String × Option Pids.Value) :=
  pidMap.map fun e => (e.label, told exchanges e)

variable {xs us : List (Str × Option Str)} {e e' : Entry}

theorem lookup_not_mem {cmd : Str} (h : cmd ∉ us.map (·.1)) : us.lookup cmd = none := by
  rw [List.lookup_eq_none_iff]
  intro x hx
  rw [bne_iff_ne]
  rintro rfl
  exact h (List.mem_map_of_mem hx)

theorem told_of_not_asked (h : e.command ∉ us.map (·.1)) : told (xs ++ us) e = told xs e := by
  rw [told, List.lookup_append, lookup_not_mem h, Option.or_none, told]

/-- A text that was read after the command of an entry that had not been asked. -/
theorem told_asked (h : e.command ∉ xs.map (·.1)) (reply : Option Str) :
    told (xs ++ [(e.command, reply)]) e = told [(e.command, reply)] e := by
  rw [told, List.lookup_append, lookup_not_mem h, Option.none_or, told]

theorem commands_nodup : (pidMap.map Entry.command).Nodup := by decide +kernel

theorem labels_nodup : (pidMap.map Entry.label).Nodup := by decide +kernel

/-- The commands that set the adapter up belong to no entry. -/
theorem command_not_opening : ∀ e ∈ pidMap, e.command ∉ initCmds ++ [supportedCmd] := by
  decide +kernel

/-! ## One exchange -/

/-- The port has failed: a command could not be written, or what follows it not be read. -/
def Failed (s : Fetching) : Prop := s.writes = 0 ∨ ∃ cmd, (cmd, none) ∈ s.exchanges

/-- An exchange that raises has written its command or not; one that returns has read a text. -/
theorem exchange_cases (cmd : Str) (s : Fetching) :
    (∃ s' us, exchange cmd s = (.error (), s') ∧ s'.data = s.data
        ∧ s'.exchanges = s.exchanges ++ us ∧ (us = [] ∨ us = [(cmd, none)]) ∧ Failed s')
      ∨ ∃ s' text, exchange cmd s = (.ok text, s') ∧ s'.data = s.data
        ∧ s'.exchanges = s.exchanges ++ [(cmd, some text)] := by
  rw [exchange]
  cases hwrites : s.writes with
  | zero => exact .inl ⟨s, [], rfl, rfl, (List.append_nil _).symm, .inl rfl, .inl hwrites⟩
  | succ n =>
    dsimp only
    cases s.replies.head?.getD (some []) with
    | none =>
      refine .inl ⟨_, _, rfl, rfl, rfl, .inr rfl, .inr ⟨cmd, ?_⟩⟩
      exact List.mem_append_right _ List.mem_cons_self
    | some text => exact .inr ⟨_, text, rfl, rfl, rfl⟩

/-! ## One entry -/

/-- The command of an entry, if it is supported. -/
def requested (supportedPids : List Str) (e : Entry) : List Str :=
  if supportedPids.contains e.command then [e.command] else []

/-- The label of an entry gets its value. -/
theorem setData_run (value : Pids.Value) {s : Fetching} (he : e ∈ pidMap)
    (h : s.data = dataOf xs) (hus : ∀ e' ∈ pidMap, e'.command ≠ e.command →
      told us e' = told xs e') (htold : told us e = some value) :
    (setData e.label value s).2.data = dataOf us := by
  have hany : s.data.any (·.1 == e.label) = true := by
    rw [h, List.any_eq_true]
    exact ⟨_, List.mem_map_of_mem he, beq_self_eq_true _⟩
  rw [setData]
  dsimp only
  rw [if_pos hany, h, dataOf, dataOf, List.map_map]
  refine List.map_congr_left fun e' he' => ?_
  rw [Function.comp_apply]
  -- a label and a command belong to one entry only
  by_cases hlabel : e'.label = e.label
  · have heq : e' = e := List.inj_on_of_nodup_map labels_nodup he' he hlabel
    rw [if_pos (beq_iff_eq.mpr hlabel), heq, htold]
  · have hne : e'.command ≠ e.command := fun hcmd =>
      hlabel (congrArg Entry.label (List.inj_on_of_nodup_map commands_nodup he' he hcmd))
    rw [if_neg (by simpa using hlabel), hus e' he' hne]

/-- What a part of the run comes to: the dictionary goes with what has been read, and of the
commands a beginning has been written, all of them unless the port fails. -/
structure Does {α : Type} (cmds : List Str) (s : Fetching) (r : Except Unit α × Fetching) :
    Prop where
  data : r.2.data = dataOf r.2.exchanges
  asked : ∃ us, r.2.exchanges = s.exchanges ++ us ∧ us.map (·.1) <+: cmds
    ∧ ∀ a, r.1 = .ok a → us.map (·.1) = cmds
  stops : ∀ u, r.1 = .error u → Failed r.2

theorem does_nothing {α : Type} {s : Fetching} (h : s.data = dataOf s.exchanges) (a : α) :
    Does [] s (.ok a, s) :=
  ⟨h, ⟨[], (List.append_nil _).symm, List.prefix_rfl, fun _ _ => rfl⟩, fun _ h => nomatch h⟩

theorem Does.commands {α : Type} {cmds : List Str} {s s' : Fetching} {a : α}
    (h : Does cmds s (.ok a, s')) : s'.exchanges.map (·.1) = s.exchanges.map (·.1) ++ cmds := by
  obtain ⟨us, hlog, _, hall⟩ := h.asked
  rw [hlog, List.map_append, hall a rfl]

theorem Does.bind {α β : Type} {x : Call Unit Fetching α} {f : α → Call Unit Fetching β}
    {cmds cmds' : List Str} {s : Fetching} (hx : Does cmds s (x s))
    (hf : ∀ a s', x s = (.ok a, s') → Does cmds' s' (f a s')) :
    Does (cmds ++ cmds') s ((x >>= f) s) := by
  obtain ⟨hdata, ⟨us, hlog, hus, hall⟩, hstops⟩ := hx
  cases hrun : x s with
  | mk r s' =>
    rw [hrun] at hdata hlog hall hstops
    cases r with
    | error u =>
      rw [bind_run_error hrun]
      exact ⟨hdata, ⟨us, hlog, hus.trans (List.prefix_append _ _), fun _ h => nomatch h⟩,
        fun _ _ => hstops u rfl⟩
    | ok a =>
      obtain ⟨hdata', ⟨us', hlog', hus', hall'⟩, hstops'⟩ := hf a s' hrun
      rw [bind_run_ok hrun]
      refine ⟨hdata', ⟨us ++ us', by rw [hlog', hlog, List.append_assoc], ?_, fun b h => ?_⟩,
        hstops'⟩
      · rw [List.map_append, hall a rfl]
        exact (List.prefix_append_right_inj _).mpr hus'
      · rw [List.map_append, hall a rfl, hall' b h]

/-- An entry without a value changes nothing. -/
theorem dataOf_unsaid (he : e ∈ pidMap) (hnew : e.command ∉ xs.map (·.1))
    (hus : ∀ u ∈ us, u.1 = e.command) (hnone : told us e = none) :
    dataOf (xs ++ us) = dataOf xs := by
  rw [dataOf, dataOf]
  refine List.map_congr_left fun e' he' => ?_
  by_cases hcmd : e'.command = e.command
  · have heq : e' = e := List.inj_on_of_nodup_map commands_nodup he' he hcmd
    have hbefore : told xs e = none := by rw [told, lookup_not_mem hnew]
    rw [heq, hbefore, told, List.lookup_append, lookup_not_mem hnew, Option.none_or, ← told, hnone]
  · rw [told_of_not_asked fun hin => ?_]
    obtain ⟨u, hu, hu'⟩ := List.mem_map.mp hin
    exact hcmd (hu'.symm.trans (hus u hu))

theorem told_single (text : Str) : told [(e.command, some text)] e
    = match e.parser.parse text with | .ok value => value | .error _ => none := by
  rw [told, List.lookup_cons_self]

theorem requestEntry_does (supportedPids : List Str) {s : Fetching} (he : e ∈ pidMap)
    (hnew : e.command ∉ s.exchanges.map (·.1)) (h : s.data = dataOf s.exchanges) :
    Does (requested supportedPids e) s (requestEntry supportedPids e s) := by
  rw [requested, requestEntry]
  split
  · rcases exchange_cases e.command s with ⟨s', us, hrun, hdata, hlog, hus, hfailed⟩ |
      ⟨s', text, hrun, hdata, hlog⟩
    · rw [bind_run_error hrun]
      have hnone : told us e = none := by
        rcases hus with rfl | rfl
        · rfl
        · rw [told, List.lookup_cons_self]
      have hfirst : ∀ u ∈ us, u.1 = e.command := by
        rcases hus with rfl | rfl
        · exact fun _ hu => nomatch hu
        · exact fun u hu => List.mem_singleton.mp hu ▸ rfl
      refine ⟨?_, ⟨us, hlog, ?_, fun _ h => nomatch h⟩, fun _ _ => hfailed⟩
      · rw [hdata, hlog, h, dataOf_unsaid he hnew hfirst hnone]
      · rcases hus with rfl | rfl
        · exact List.nil_prefix
        · exact List.prefix_rfl
    · rw [bind_run_ok hrun]
      have hfirst : ∀ u ∈ [(e.command, some text)], u.1 = e.command :=
        fun u hu => List.mem_singleton.mp hu ▸ rfl
      -- without a value the label keeps the `None` it has
      have hquiet : told [(e.command, some text)] e = none →
          s'.data = dataOf s'.exchanges := fun hnone => by
        rw [hdata, hlog, h, dataOf_unsaid he hnew hfirst hnone]
      -- no text makes the parser raise, so only the port ends the loop early
      obtain ⟨value, hparse⟩ := parse_returns he text
      have hrun' : parsed (e.parser.parse text) s' = (.ok value, s') := by rw [hparse]; rfl
      rw [bind_run_ok hrun']
      cases value with
      | none =>
        refine ⟨hquiet ?_, ⟨_, hlog, List.prefix_rfl, fun _ _ => rfl⟩, fun _ h => nomatch h⟩
        rw [told_single, hparse]
      | some value =>
        refine ⟨?_, ⟨_, hlog, List.prefix_rfl, fun _ _ => rfl⟩, fun _ h => nomatch h⟩
        refine (setData_run value he (hdata.trans h) ?_ ?_).trans (congrArg dataOf hlog.symm)
        · intro e' _ hne
          exact told_of_not_asked fun hin => hne (List.mem_singleton.mp hin)
        · rw [told_asked hnew, told_single, hparse]
  · exact does_nothing h ()

/-- **The loop**: the entries that are supported are asked for in their order. -/
theorem requestEach_does (supportedPids : List Str) {es : List Entry} (hes : es ⊆ pidMap)
    (hnodup : (es.map Entry.command).Nodup) {s : Fetching}
    (hnew : ∀ e ∈ es, e.command ∉ s.exchanges.map (·.1)) (h : s.data = dataOf s.exchanges) :
    Does (es.flatMap (requested supportedPids)) s (requestEach supportedPids es s) := by
  induction es generalizing s with
  | nil => exact does_nothing h ()
  | cons e es ih =>
    obtain ⟨hfresh, hnodup'⟩ := List.nodup_cons.mp hnodup
    have hfirst := requestEntry_does supportedPids (hes List.mem_cons_self)
      (hnew e List.mem_cons_self) h
    rw [requestEach, List.flatMap_cons]
    refine hfirst.bind fun u s' hrun => ?_
    rw [hrun] at hfirst
    -- the commands of the entries are different, so the later ones are still to be asked
    refine ih (fun x hx => hes (List.mem_cons_of_mem e hx)) hnodup' (fun e' he' hin => ?_) hfirst.data
    rw [hfirst.commands, List.mem_append] at hin
    rcases hin with hold | hin
    · exact hnew e' (List.mem_cons_of_mem e he') hold
    · have hcmd : e'.command = e.command := by
        rw [requested] at hin
        split at hin
        · exact List.mem_singleton.mp hin
        · cases hin
      exact hfresh (hcmd ▸ List.mem_map_of_mem he')

/-! ## The whole run -/

/-- A command that belongs to no entry. -/
theorem dataOf_other {us : List (Str × Option Str)}
    (h : ∀ e ∈ pidMap, e.command ∉ us.map (·.1)) : dataOf (xs ++ us) = dataOf xs := by
  rw [dataOf, dataOf]
  refine List.map_congr_left fun e he => ?_
  rw [told_of_not_asked (h e he)]

theorem exchange_does {cmd : Str} (hcmd : ∀ e ∈ pidMap, e.command ≠ cmd) {s : Fetching}
    (h : s.data = dataOf s.exchanges) : Does [cmd] s (exchange cmd s) := by
  have hother : ∀ reply, ∀ e ∈ pidMap, e.command ∉ [(cmd, (reply : Option Str))].map (·.1) :=
    fun _ e he hin => hcmd e he (List.mem_singleton.mp hin)
  -- what follows a command of no entry is not looked up
  rcases exchange_cases cmd s with ⟨s', us, hrun, hdata, hlog, hus, hfailed⟩ |
    ⟨s', text, hrun, hdata, hlog⟩
  · rw [hrun]
    rcases hus with rfl | rfl
    · rw [List.append_nil] at hlog
      exact ⟨by rw [hdata, hlog, h], ⟨[], hlog.trans (List.append_nil _).symm, List.nil_prefix,
        fun _ h => nomatch h⟩, fun _ _ => hfailed⟩
    · exact ⟨by rw [hdata, hlog, h, dataOf_other (hother none)], ⟨_, hlog, List.prefix_rfl,
        fun _ _ => rfl⟩, fun _ _ => hfailed⟩
  · rw [hrun]
    exact ⟨by rw [hdata, hlog, h, dataOf_other (hother _)], ⟨_, hlog, List.prefix_rfl,
      fun _ _ => rfl⟩, fun _ h => nomatch h⟩

theorem setUp_does {cmds : List Str} (hcmds : ∀ e ∈ pidMap, e.command ∉ cmds) {s : Fetching}
    (h : s.data = dataOf s.exchanges) : Does cmds s (setUp cmds s) := by
  induction cmds generalizing s with
  | nil => exact does_nothing h ()
  | cons cmd cmds ih =>
    have hcmd : ∀ e ∈ pidMap, e.command ≠ cmd := fun e he heq =>
      hcmds e he (heq ▸ List.mem_cons_self)
    have hfirst := exchange_does hcmd h
    refine hfirst.bind fun text s' hrun => ?_
    rw [hrun] at hfirst
    exact ih (fun e he hin => hcmds e he (List.mem_cons_of_mem cmd hin)) hfirst.data

/-- The run has come to the entries: what it has asked them for is `rest`. -/
def Reaches (exchanges rest : List (Str × Option Str)) (supportedPids : List Str) : Prop :=
  ∃ init raw, exchanges = init ++ (supportedCmd, some raw) :: rest
    ∧ init.map (·.1) = initCmds ∧ parseSupportedPids raw = .ok supportedPids

/-- What a run leaves, over a port that could be opened or not. -/
structure Fetched (opened : Bool) (s : Fetching) : Prop where
  /-- Each label has what its parser makes of the text that was read for it. -/
  data : s.data = dataOf s.exchanges
  /-- Only the entries that are supported are asked for, in their order. -/
  asked : s.exchanges.map (·.1) <+: initCmds ++ [supportedCmd]
    ∨ ∃ supportedPids rest, Reaches s.exchanges rest supportedPids
      ∧ rest.map (·.1) <+: pidMap.flatMap (requested supportedPids)
  /-- All of them are, unless the port fails. -/
  complete : (∃ supportedPids rest, Reaches s.exchanges rest supportedPids
      ∧ rest.map (·.1) = pidMap.flatMap (requested supportedPids))
    ∨ opened = false ∨ Failed s

theorem closePort_state (s : Fetching) : (closePort s).2 = s := by
  rw [closePort]
  split <;> rfl

/-- From the answer to `0100` on. -/
theorem requestEach_fetched {s : Fetching} {init : List (Str × Option Str)} {raw : Str}
    {supportedPids : List Str} (hparse : parseSupportedPids raw = .ok supportedPids)
    (hinit : init.map (·.1) = initCmds) (hlog : s.exchanges = init ++ [(supportedCmd, some raw)])
    (hdata : s.data = dataOf s.exchanges) :
    Fetched true ((requestEach supportedPids pidMap >>= fun _ => closePort) s).2 := by
  have hnew : ∀ e ∈ pidMap, e.command ∉ s.exchanges.map (·.1) := by
    intro e he
    rw [hlog, List.map_append, hinit]
    exact command_not_opening e he
  obtain ⟨hdata', ⟨rest, hlog', hrest, hall⟩, hstops⟩ :=
    requestEach_does supportedPids (List.Subset.refl pidMap) commands_nodup hnew hdata
  cases hrun : requestEach supportedPids pidMap s with
  | mk r s' =>
    rw [hrun] at hdata' hlog' hall hstops
    have hreaches : Reaches s'.exchanges rest supportedPids :=
      ⟨init, raw, by rw [hlog', hlog, List.append_assoc, List.singleton_append], hinit, hparse⟩
    cases r with
    | error u =>
      rw [bind_run_error hrun]
      exact ⟨hdata', .inr ⟨_, rest, hreaches, hrest⟩, .inr (.inr (hstops u rfl))⟩
    | ok u =>
      rw [bind_run_ok hrun, closePort_state]
      exact ⟨hdata', .inr ⟨_, rest, hreaches, hrest⟩, .inl ⟨_, rest, hreaches, hall u rfl⟩⟩

theorem ask_fetched {s : Fetching} (hnothing : s.exchanges = [])
    (hdata : s.data = dataOf s.exchanges) : Fetched true (ask s).2 := by
  have hcmds : ∀ e ∈ pidMap, e.command ∉ initCmds := fun e he hin =>
    command_not_opening e he (List.mem_append_left _ hin)
  have hcmd : ∀ e ∈ pidMap, e.command ≠ supportedCmd := fun e he heq =>
    command_not_opening e he (heq ▸ List.mem_append_right _ List.mem_cons_self)
  obtain ⟨hdata₁, ⟨init, hlog₁, hinit, hall⟩, hstops₁⟩ := setUp_does hcmds hdata
  rw [hnothing, List.nil_append] at hlog₁
  rw [ask]
  cases hrun₁ : setUp initCmds s with
  | mk r s₁ =>
    rw [hrun₁] at hdata₁ hlog₁ hall hstops₁
    cases r with
    | error u =>
      -- an opening command failed: nothing was asked after it
      rw [bind_run_error hrun₁]
      exact ⟨hdata₁, .inl (hlog₁ ▸ hinit.trans (List.prefix_append _ _)),
        .inr (.inr (hstops₁ u rfl))⟩
    | ok u =>
      rw [bind_run_ok hrun₁]
      have hask := exchange_does hcmd hdata₁
      rcases exchange_cases supportedCmd s₁ with ⟨s₂, us, hrun₂, -, hlog₂, hus, hfailed⟩ |
        ⟨s₂, raw, hrun₂, -, hlog₂⟩
      · rw [hrun₂] at hask
        rw [bind_run_error hrun₂]
        refine ⟨hask.data, .inl ?_, .inr (.inr hfailed)⟩
        rw [hlog₂, hlog₁, List.map_append, hall u rfl]
        rcases hus with rfl | rfl
        · exact List.prefix_append _ _
        · exact List.prefix_rfl
      · rw [hrun₂] at hask
        rw [bind_run_ok hrun₂]
        -- the parser never raises, so the walk over the entries begins
        obtain ⟨supportedPids, hparse⟩ := parseSupportedPids_returns raw
        have hrun₃ : parsed (parseSupportedPids raw) s₂ = (.ok supportedPids, s₂) := by
          rw [hparse]
          rfl
        rw [bind_run_ok hrun₃]
        exact requestEach_fetched hparse (hall u rfl) (hlog₁ ▸ hlog₂) hask.data

/--
**What a run returns is what the vehicle has said.** The eight labels are there in their order
wherever the port fails, and a label has a value exactly if its parser finds one in the text
that was read for its own command.
-/
theorem fetchLiveData_fetched (s : Fetching) : Fetched (s.opens && s.clears) (fetchLiveData s) := by
  rw [fetchLiveData, fetch]
  cases hopen : s.opens && s.clears with
  | false =>
    have hrun : openPort { s with exchanges := [], data := noData }
        = (.error (), { s with exchanges := [], data := noData }) :=
      if_neg (by rw [hopen]; exact Bool.false_ne_true)
    rw [bind_run_error hrun]
    exact ⟨rfl, .inl List.nil_prefix, .inr (.inl rfl)⟩
  | true =>
    have hrun : openPort { s with exchanges := [], data := noData }
        = (.ok (), { s with exchanges := [], data := noData }) := if_pos hopen
    rw [bind_run_ok hrun]
    exact ask_fetched rfl rfl

end AutoDiag.Proof.LiveFetch

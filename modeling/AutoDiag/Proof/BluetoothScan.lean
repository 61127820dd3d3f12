import AutoDiag.Adapter.Connection
import AutoDiag.Lib.Emits

/-!
# What a scan writes

Nothing that `bluetoothctl` prints can make the scan write anything but its fixed commands
and those for one address, and an address has only digits and colons.
-/

namespace AutoDiag.Proof.BluetoothScan

open Adapter Call

variable {T : Py.LowerCase}

/-! ## Addresses -/

/-- Seventeen hexadecimal digits and colons. -/
structure IsAddress (mac : Str) : Prop where
  length : mac.length = 17
  chars : ∀ c ∈ mac, isMacChar c = true

/-- What the expression keeps of a line has the form of an address. -/
theorem device_address {line mac name : Str} (h : device line = some (mac, name)) :
    IsAddress mac := by
  obtain ⟨s, _, hs⟩ := List.exists_of_findSome?_eq_some h
  rw [deviceHere, Option.map_eq_some_iff] at hs
  obtain ⟨kept, hkept, heq⟩ := hs
  cases heq
  have hclasses : Pattern.classes devicePattern = List.replicate 17 isMacChar := rfl
  have hall := hclasses ▸ Pattern.matchHere_kept devicePattern s hkept
  exact ⟨hall.replicate.1, hall.replicate.2⟩

theorem foundIn_address {line mac : Str} (h : foundIn T line = some mac) : IsAddress mac := by
  rw [foundIn, Option.bind_eq_some_iff] at h
  obtain ⟨⟨mac', name⟩, hdevice, hmac⟩ := h
  rw [Option.ite_none_right_eq_some] at hmac
  obtain ⟨_, heq⟩ := hmac
  cases heq
  exact device_address hdevice

/-- A line of the output gives `mac` as the address of an OBD2 device. -/
def Announced (T : Py.LowerCase) (p : Bluetoothctl) (mac : Str) : Prop :=
  ∃ line, some line ∈ p.output ∧ foundIn T line = some mac

/-! ## Reading and writing -/

/-- Lines have been read, and the rest but the writes is as before. -/
structure Talked (p p' : Bluetoothctl) : Prop where
  output : p'.output <:+ p.output
  elmMac : p'.elmMac = p.elmMac

theorem Talked.refl (p : Bluetoothctl) : Talked p p := ⟨List.suffix_rfl, rfl⟩

theorem Talked.trans {p p' p'' : Bluetoothctl} (h : Talked p p') (h' : Talked p' p'') :
    Talked p p'' := ⟨h'.output.trans h.output, h'.elmMac.trans h.elmMac⟩

theorem Announced.back {p p' : Bluetoothctl} {mac : Str} (h : Talked p p') (hn : Announced T p' mac) :
    Announced T p mac := by
  obtain ⟨line, hline, hfound⟩ := hn
  exact ⟨line, h.output.subset hline, hfound⟩

/-- A command is one line to the process. -/
theorem send_emits (cmd : Str) :
    EmitsUnder (·.written) Talked (fun _ _ => True) [cmd ++ ['\n']] (send cmd) := by
  intro p
  unfold send
  cases p.writes with
  | zero =>
    exact ⟨[], (List.append_nil _).symm, .refl p, List.nil_prefix, fun _ h => nomatch h⟩
  | succ n =>
    exact ⟨[cmd ++ ['\n']], rfl, ⟨List.suffix_rfl, rfl⟩, List.prefix_rfl,
      fun _ _ => ⟨rfl, trivial⟩⟩

/-- A line that is not empty was in the output. -/
theorem readline_emits :
    EmitsUnder (·.written) Talked (fun p line => line ≠ [] → some line ∈ p.output) [] readline := by
  intro p
  unfold readline
  cases houtput : p.output with
  | nil =>
    by_cases hends : p.ends
    · rw [if_pos hends]
      refine ⟨[], (List.append_nil _).symm, .refl p, List.prefix_rfl, fun line hline => ⟨rfl, ?_⟩⟩
      cases hline
      exact fun h => absurd rfl h
    · rw [if_neg hends]
      exact ⟨[], (List.append_nil _).symm, .refl p, List.prefix_rfl, fun _ h => nomatch h⟩
  | cons first output =>
    have htalked : Talked p { p with output := output } :=
      ⟨houtput ▸ List.suffix_cons first output, rfl⟩
    cases first with
    | none =>
      exact ⟨[], (List.append_nil _).symm, htalked, List.prefix_rfl, fun _ h => nomatch h⟩
    | some line =>
      refine ⟨[], (List.append_nil _).symm, htalked, List.prefix_rfl, fun _ h => ⟨rfl, ?_⟩⟩
      cases h
      exact fun _ => houtput ▸ List.mem_cons_self

/-- A device that has been found is one that the output names. -/
def Finds (T : Py.LowerCase) (p : Bluetoothctl) (found : Option Str) : Prop :=
  ∀ mac ∈ found, Announced T p mac

theorem finds_none (p : Bluetoothctl) : Finds T p none := fun _ h => nomatch h

theorem return_none_emits :
    EmitsUnder (·.written) Talked (Finds T) []
      (return none : Call Stuck Bluetoothctl (Option Str)) :=
  emitsUnder_pure Talked.refl finds_none

/-- One turn of either loop: the next line is empty, or names a device, or the loop goes on. -/
theorem turn_emits {atEnd more : Call Stuck Bluetoothctl (Option Str)}
    (hend : EmitsUnder (·.written) Talked (Finds T) [] atEnd)
    (hmore : EmitsUnder (·.written) Talked (Finds T) [] more) :
    EmitsUnder (·.written) Talked (Finds T) [] (do
      let line ← readline
      if line = [] then atEnd
      else match foundIn T line with
        | some mac => return some mac
        | none => more) := by
  refine EmitsUnder.bind (R := Talked) (U := fun line p found =>
    Finds T p found ∨ line ≠ [] ∧ found = foundIn T line) Talked.trans readline_emits ?_ ?_
  · intro line
    by_cases hline : line = []
    · rw [if_pos hline]
      exact hend.mono fun _ _ => .inl
    · rw [if_neg hline]
      cases hfound : foundIn T line with
      | some mac => exact emitsUnder_pure Talked.refl fun _ => .inr ⟨hline, rfl⟩
      | none => exact hmore.mono fun _ _ => .inl
  · intro p p' line found hline htalked hfound mac hmac
    rcases hfound with hfinds | ⟨hne, rfl⟩
    · exact (hfinds mac hmac).back htalked
    · exact ⟨line, hline hne, hmac⟩

/-- By induction on the turns that are left; only reading goes on. -/
theorem scanLoop_emits (turns : Nat) :
    EmitsUnder (·.written) Talked (Finds T) [] (scanLoop T turns) := by
  induction turns with
  | zero => exact return_none_emits
  | succ turns ih => exact turn_emits ih ih

theorem knownLoop_emits (turns : Nat) :
    EmitsUnder (·.written) Talked (Finds T) [] (knownLoop T turns) := by
  induction turns with
  | zero =>
    exact fun p => ⟨[], (List.append_nil _).symm, .refl p, List.prefix_rfl, fun _ h => nomatch h⟩
  | succ turns ih => exact turn_emits return_none_emits ih

/-! ## The whole scan -/

/-- The command that asks for the known devices. -/
def asking (asks : Bool) : List Str := if asks then ["devices".toList] else []

/-- The commands of a scan: whether it asks for the known devices, and the address it finds. -/
def commands (asks : Bool) (found : Option Str) : List Str :=
  ["agent on".toList, "power on".toList, "default-agent".toList, "scan on".toList,
    "scan off".toList] ++ asking asks
    ++ match found with
      | none => []
      | some mac => ["pair ".toList ++ mac, "trust ".toList ++ mac, "connect ".toList ++ mac]

/-- As they are written. -/
def linesOf (cmds : List Str) : List Str := cmds.map (· ++ ['\n'])

theorem Finds.back {p p' : Bluetoothctl} {found : Option Str} (h : Talked p p')
    (hf : Finds T p' found) : Finds T p found := fun mac hmac => (hf mac hmac).back h

/-- A command, and then the rest. -/
theorem send_then (cmd : Str) {α : Type} {Q : Bluetoothctl → α → Prop} {ws : List Str}
    {more : Unit → Call Stuck Bluetoothctl α}
    (hQ : ∀ {p p' a}, Talked p p' → Q p' a → Q p a)
    (hmore : ∀ u, EmitsUnder (·.written) Talked Q ws (more u)) :
    EmitsUnder (·.written) Talked Q ((cmd ++ ['\n']) :: ws) (send cmd >>= more) :=
  EmitsUnder.bind (R := Talked) Talked.trans (send_emits cmd) hmore fun _ => hQ

theorem scan_emits (turns : Nat) :
    EmitsUnder (·.written) Talked (Finds T) (linesOf (commands false none)) (scan T turns) := by
  refine send_then _ Finds.back fun _ => send_then _ Finds.back fun _ => ?_
  refine send_then _ Finds.back fun _ => send_then _ Finds.back fun _ => ?_
  refine EmitsUnder.bind (R := Talked) (U := fun found _ r => r = found) Talked.trans
    (scanLoop_emits turns) ?_ ?_
  · exact fun found => send_then _ (fun _ h => h) fun _ => emitsUnder_pure Talked.refl fun _ => rfl
  · rintro p p' found _ hfinds _ rfl
    exact hfinds

/-- Three commands, for the one address. -/
theorem introduce_emits (mac : Str) :
    EmitsUnder (·.written) Talked (fun _ _ => True)
      (linesOf ["pair ".toList ++ mac, "trust ".toList ++ mac, "connect ".toList ++ mac])
      (introduce mac) :=
  send_then _ (fun _ h => h) fun _ => send_then _ (fun _ h => h) fun _ => send_emits _

/-- The known devices are asked for only where the scan has found none. -/
theorem search_emits (turns : Nat) :
    EmitsFrom (·.written) Talked (fun p r us => ∃ asks, us <+: linesOf (commands asks none)
      ∧ ∀ found, r = .ok found → us = linesOf (commands asks none) ∧ Finds T p found)
      (search T turns) := by
  have hask : EmitsUnder (·.written) Talked (Finds T) (linesOf ["devices".toList]) (do
      send "devices".toList
      fun p => knownLoop T (p.output.length + 1) p) :=
    send_then _ Finds.back fun _ p => knownLoop_emits (p.output.length + 1) p
  refine EmitsFrom.bind (R := Talked) (V := fun found p r us => ∃ asks, us <+: linesOf (asking asks)
      ∧ ∀ found', r = .ok found' → us = linesOf (asking asks)
        ∧ (Finds T p found' ∨ found' = found)) Talked.trans (scan_emits turns) ?_ ?_ ?_
  · intro found
    cases found with
    | some mac =>
      refine fun p => ⟨[], (List.append_nil _).symm, .refl p, false, List.prefix_rfl, ?_⟩
      intro found' hfound'
      cases hfound'
      exact ⟨rfl, .inr rfl⟩
    | none =>
      intro p
      obtain ⟨us, hlog, hr, hus, hok⟩ := hask p
      exact ⟨us, hlog, hr, true, hus, fun found' h => ⟨(hok found' h).1, .inl (hok found' h).2⟩⟩
  · exact fun h => ⟨false, h.1, fun _ h' => nomatch h'⟩
  · intro p p' found us r us' hus hr ⟨asks, hus', hok⟩
    obtain ⟨rfl, hfinds⟩ := hus.2 found rfl
    -- the lines of the scan come before those that ask for the known devices
    have hjoin : linesOf (commands asks none) = linesOf (commands false none)
        ++ linesOf (asking asks) := by cases asks <;> rfl
    refine ⟨asks, ?_, fun found' h => ?_⟩
    · rw [hjoin]
      exact (List.prefix_append_right_inj _).mpr hus'
    · obtain ⟨rfl, hfound'⟩ := hok found' h
      refine ⟨hjoin.symm, ?_⟩
      rcases hfound' with hback | rfl
      · exact hback.back hr
      · exact hfinds

/-- What has become of the process `p` and the global, and what a scan returns. -/
structure Scanned (T : Py.LowerCase) (p p' : Bluetoothctl) (asks : Bool) (found : Option Str)
    (returned : Option (Option Str)) : Prop where
  /-- A beginning of the commands is written, line by line. -/
  written : ∃ us, p'.written = p.written ++ us ∧ us <+: linesOf (commands asks found)
  /-- The address is one that the output gives an OBD2 device. -/
  announced : ∀ mac ∈ found, Announced T p mac ∧ IsAddress mac
  /-- The global changes only when all the commands have been written. -/
  elmMac : p'.elmMac = p.elmMac ∨ p'.written = p.written ++ linesOf (commands asks found)
    ∧ found.isSome ∧ p'.elmMac = found
  /-- An address is returned only when it is in the global. -/
  returned : ∀ mac, returned = some (some mac) → found = some mac ∧ p'.elmMac = some mac
    ∧ p'.written = p.written ++ linesOf (commands asks found)

/-- The global is set only when the three commands have been written. -/
theorem finish_run (mac : Str) (p : Bluetoothctl) :
    ∃ us, (finish mac p).2.written = p.written ++ us
      ∧ us <+: linesOf ["pair ".toList ++ mac, "trust ".toList ++ mac, "connect ".toList ++ mac]
      ∧ ((finish mac p).2.elmMac = p.elmMac ∧ (∀ r, (finish mac p).1 ≠ .ok r)
        ∨ us = linesOf ["pair ".toList ++ mac, "trust ".toList ++ mac, "connect ".toList ++ mac]
          ∧ (finish mac p).2.elmMac = some mac
          ∧ ∀ r, (finish mac p).1 = .ok r → r = some mac) := by
  obtain ⟨us, hlog, hr, hus, hok⟩ := introduce_emits mac p
  cases hrun : introduce mac p with
  | mk r p' =>
    rw [hrun] at hlog hr hok
    cases r with
    | error e =>
      have hfinish : finish mac p = (.error e, p') := bind_run_error hrun
      rw [hfinish]
      exact ⟨us, hlog, hus, .inl ⟨hr.elmMac, fun _ h => nomatch h⟩⟩
    | ok u =>
      obtain ⟨rfl, _⟩ := hok u rfl
      have hset : finish mac p = (do close; return some mac : Call Stuck Bluetoothctl (Option Str))
          { p' with elmMac := some mac } := bind_run_ok hrun
      -- closing may raise, but the address is set by then
      by_cases hcloses : p'.closes
      · have hclose : close { p' with elmMac := some mac }
            = (.ok (), { p' with elmMac := some mac }) := if_pos hcloses
        rw [hset, bind_run_ok hclose]
        refine ⟨_, hlog, List.prefix_rfl, .inr ⟨rfl, rfl, fun r h => ?_⟩⟩
        cases h
        rfl
      · have hclose : close { p' with elmMac := some mac }
            = (.error .exception, { p' with elmMac := some mac }) := if_neg hcloses
        rw [hset, bind_run_error hclose]
        exact ⟨_, hlog, List.prefix_rfl, .inr ⟨rfl, rfl, fun _ h => nomatch h⟩⟩

theorem outcome_ok {r : Except Stuck (Option Str)} {mac : Str}
    (h : outcome r = some (some mac)) : r = .ok (some mac) := by
  cases r with
  | ok found => exact congrArg Except.ok (Option.some.inj h)
  | error e => cases e <;> cases h

/-- A scan that ends before it has an address. -/
theorem scanned_of_stopped {p p' : Bluetoothctl} {asks : Bool} {us : List Str}
    {returned : Option (Option Str)} (hlog : p'.written = p.written ++ us) (hr : Talked p p')
    (hus : us <+: linesOf (commands asks none)) (hret : ∀ mac, returned ≠ some (some mac)) :
    Scanned T p p' asks none returned where
  written := ⟨us, hlog, hus⟩
  announced _ h := nomatch h
  elmMac := .inl hr.elmMac
  returned mac h := absurd h (hret mac)

/-- A scan that goes on from the address it has found. -/
theorem scanned_of_found {p p' p'' : Bluetoothctl} {asks : Bool} {mac : Str}
    {r : Except Stuck (Option Str)} (hlog : p'.written = p.written ++ linesOf (commands asks none))
    (hr : Talked p p') (hannounced : Announced T p mac) (hrun : finish mac p' = (r, p'')) :
    Scanned T p p'' asks (some mac) (outcome r) := by
  have hjoin : linesOf (commands asks (some mac)) = linesOf (commands asks none)
      ++ linesOf ["pair ".toList ++ mac, "trust ".toList ++ mac, "connect ".toList ++ mac] := by
    cases asks <;> rfl
  obtain ⟨us, hwritten, hus, hmac⟩ := finish_run mac p'
  rw [hrun] at hwritten hmac
  have hall : p''.written = p.written ++ (linesOf (commands asks none) ++ us) := by
    rw [hwritten, hlog, List.append_assoc]
  refine ⟨⟨_, hall, ?_⟩, ?_, ?_, ?_⟩
  · rw [hjoin]
    exact (List.prefix_append_right_inj _).mpr hus
  · intro mac' hmac'
    cases hmac'
    obtain ⟨line, _, hfound⟩ := id hannounced
    exact ⟨hannounced, foundIn_address hfound⟩
  -- the global is set behind the last of the three commands
  · rcases hmac with ⟨hmac, _⟩ | ⟨rfl, hmac, _⟩
    · exact .inl (hmac.trans hr.elmMac)
    · exact .inr ⟨by rw [hall, hjoin], rfl, hmac⟩
  · intro mac' hmac'
    rcases hmac with ⟨_, hnot⟩ | ⟨rfl, hmac, hok⟩
    · exact absurd (outcome_ok hmac') (hnot _)
    · cases hok _ (outcome_ok hmac')
      exact ⟨rfl, hmac, by rw [hall, hjoin]⟩

/--
**Whatever is printed, a scan writes its own commands.** They are the fixed ones, and those
for an address that a line gives an OBD2 device; where the pipe breaks, a text cannot be
decoded or no line comes, a beginning of them.
-/
theorem scan_commands (T : Py.LowerCase) (turns : Nat) (p : Bluetoothctl) :
    ∃ asks found, Scanned T p (runBluetoothctlAndConnectObd2 T turns p).2 asks found
      (runBluetoothctlAndConnectObd2 T turns p).1 := by
  rw [runBluetoothctlAndConnectObd2]
  dsimp only
  by_cases hstarts : p.starts
  · have hpopen : popen p = (.ok (), p) := if_pos hstarts
    obtain ⟨us, hlog, hr, asks, hus, hok⟩ := search_emits turns p
    cases hsearch : search T turns p with
    | mk r p' =>
      rw [hsearch] at hlog hr hok
      cases r with
      | error e =>
        have hattempt : attempt T turns p = (.error e, p') := by
          rw [attempt, bind_run_ok hpopen, bind_run_error hsearch]
        rw [hattempt]
        refine ⟨asks, none, scanned_of_stopped hlog hr hus fun mac h => ?_⟩
        cases outcome_ok h
      | ok found =>
        obtain ⟨rfl, hfinds⟩ := hok found rfl
        cases found with
        | some mac =>
          have hattempt : attempt T turns p = finish mac p' := by
            rw [attempt, bind_run_ok hpopen, bind_run_ok hsearch]
          rw [hattempt]
          exact ⟨asks, some mac, scanned_of_found hlog hr (hfinds mac rfl) rfl⟩
        -- no device: nothing more is written, whether or not the program can be closed
        | none =>
          have hret : ∀ r, attempt T turns p = (r, p') → (∀ mac, r ≠ .ok (some mac)) →
              ∃ asks found, Scanned T p (attempt T turns p).2 asks found
                (outcome (attempt T turns p).1) := by
            intro r hattempt hr'
            rw [hattempt]
            exact ⟨asks, none, scanned_of_stopped hlog hr hus fun mac h => hr' mac (outcome_ok h)⟩
          have hclosing : attempt T turns p
              = (do close; return none : Call Stuck Bluetoothctl (Option Str)) p' := by
            rw [attempt, bind_run_ok hpopen, bind_run_ok hsearch]
          by_cases hcloses : p'.closes
          · have hclose : close p' = (.ok (), p') := if_pos hcloses
            exact hret (.ok none) (hclosing.trans (bind_run_ok hclose)) fun _ h => nomatch h
          · have hclose : close p' = (.error .exception, p') := if_neg hcloses
            exact hret (.error .exception) (hclosing.trans (bind_run_error hclose))
              fun _ h => nomatch h
  · have hpopen : popen p = (.error .exception, p) := if_neg hstarts
    have hattempt : attempt T turns p = (.error .exception, p) := bind_run_error hpopen
    rw [hattempt]
    exact ⟨false, none, scanned_of_stopped (List.append_nil _).symm (.refl p) List.nil_prefix
      fun _ h => nomatch outcome_ok h⟩

/-! ## What a scan comes to -/

/-- Lines that can be decoded, none of them empty. -/
def Texts (output : List (Option Str)) : Prop := ∀ l ∈ output, ∃ line, l = some line ∧ line ≠ []

/-- The address in the first line that names an OBD2 device. -/
def first (T : Py.LowerCase) (output : List (Option Str)) : Option Str :=
  output.findSome? fun l => l.bind (foundIn T)

/-- The process after a command. -/
def sent (p : Bluetoothctl) (cmd : Str) : Bluetoothctl :=
  { p with writes := p.writes - 1, written := p.written ++ [cmd ++ ['\n']] }

/-- A command that can be written is written. -/
theorem send_run {p : Bluetoothctl} (h : 0 < p.writes) (cmd : Str) :
    send cmd p = (.ok (), sent p cmd) := by
  obtain ⟨n, hn⟩ := Nat.exists_eq_succ_of_ne_zero (Nat.pos_iff_ne_zero.mp h)
  simp only [send, sent, hn, Nat.succ_sub_one]

/-- How a loop leaves the process. -/
def unread (p : Bluetoothctl) (output : List (Option Str)) : Bluetoothctl :=
  { p with output := output }

theorem readline_run {p : Bluetoothctl} {line : Str} {output : List (Option Str)}
    (h : p.output = some line :: output) : readline p = (.ok line, unread p output) := by
  simp only [readline, h, unread]

theorem first_cons (line : Str) (output : List (Option Str)) :
    first T (some line :: output) = (foundIn T line).or (first T output) := by
  rw [first, List.findSome?_cons]
  cases hfound : foundIn T line with
  | some mac => simp [hfound]
  | none => simp [hfound, first]

/-- How the loop of the scan ends: with the first device, with the rest of the output, or never. -/
inductive ScanEnds (T : Py.LowerCase) (p : Bluetoothctl) :
    Except Stuck (Option Str) × Bluetoothctl → Prop where
  | found {mac : Str} (output : List (Option Str)) (h : first T p.output = some mac) :
      ScanEnds T p (.ok (some mac), unread p output)
  | timeout {output : List (Option Str)} (htexts : Texts output)
      (h : first T p.output = first T output) : ScanEnds T p (.ok none, unread p output)
  | waiting (h : first T p.output = none) (hends : p.ends = false) :
      ScanEnds T p (.error .waiting, unread p [])

/-- By induction on the turns that the deadline leaves. -/
theorem scanLoop_ends (turns : Nat) {p : Bluetoothctl} (h : Texts p.output) :
    ScanEnds T p (scanLoop T turns p) := by
  induction turns generalizing p with
  | zero => exact .timeout h rfl
  | succ turns ih =>
    cases houtput : p.output with
    | nil =>
      -- an ended output gives empty lines until the time is up, a silent one none
      by_cases hends : p.ends
      · have hread : readline p = (.ok [], p) := by simp only [readline, houtput, hends, if_true]
        have hloop : scanLoop T (turns + 1) p = scanLoop T turns p := by
          rw [scanLoop, bind_run_ok hread, if_pos rfl]
        rw [hloop]
        exact ih h
      · have hsame : unread p [] = p := by rw [unread, ← houtput]
        have hread : readline p = (.error .waiting, unread p []) := by
          rw [hsame]
          simp only [readline, houtput]
          rw [if_neg hends]
        have hloop : scanLoop T (turns + 1) p = (.error .waiting, unread p []) :=
          bind_run_error hread
        rw [hloop]
        exact .waiting (by rw [houtput]; rfl) (Bool.eq_false_iff.mpr hends)
    | cons l output =>
      obtain ⟨line, rfl, hne⟩ := h l (houtput ▸ List.mem_cons_self)
      have htexts : Texts output := fun l' hl' => h l' (houtput ▸ List.mem_cons_of_mem _ hl')
      have hread := readline_run houtput
      have hfirst : first T p.output = (foundIn T line).or (first T output) := by
        rw [houtput, first_cons]
      cases hfound : foundIn T line with
      | some mac =>
        have hloop : scanLoop T (turns + 1) p = (.ok (some mac), unread p output) := by
          rw [scanLoop, bind_run_ok hread, if_neg hne, hfound]
          rfl
        rw [hloop]
        exact .found output (by rw [hfirst, hfound]; rfl)
      | none =>
        have hloop : scanLoop T (turns + 1) p = scanLoop T turns (unread p output) := by
          rw [scanLoop, bind_run_ok hread, if_neg hne, hfound]
        have hsame : first T p.output = first T output := by rw [hfirst, hfound, Option.none_or]
        rw [hloop]
        have hrest : ScanEnds T (unread p output) (scanLoop T turns (unread p output)) := ih htexts
        generalize scanLoop T turns (unread p output) = r at hrest
        cases hrest with
        | found rest h => exact .found rest (hsame.trans h)
        | timeout htexts h => exact .timeout htexts (hsame.trans h)
        | waiting h hends => exact .waiting (hsame.trans h) hends

/-- What the loop over the known devices comes to. -/
def known (T : Py.LowerCase) (p : Bluetoothctl) : Except Stuck (Option Str) :=
  match first T p.output with
  | some mac => .ok (some mac)
  | none => if p.ends then .ok none else .error .waiting

/-- The loop over the known devices reads on until the output is at its end. -/
theorem knownLoop_ends {turns : Nat} {p : Bluetoothctl} (h : Texts p.output)
    (hturns : p.output.length < turns) :
    ∃ output, knownLoop T turns p = (known T p, unread p output) := by
  induction turns generalizing p with
  | zero => exact absurd hturns (Nat.not_lt_zero _)
  | succ turns ih =>
    cases houtput : p.output with
    | nil =>
      have hsame : unread p [] = p := by rw [unread, ← houtput]
      have hfirst : first T p.output = none := by rw [houtput]; rfl
      refine ⟨[], ?_⟩
      rw [known, hfirst, hsame, knownLoop]
      -- an empty read is the end of the output, or the pipe is silent
      by_cases hends : p.ends
      · have hread : readline p = (.ok [], p) := by simp only [readline, houtput, hends, if_true]
        rw [bind_run_ok hread, if_pos rfl, if_pos hends]
        rfl
      · have hread : readline p = (.error .waiting, p) := by
          simp only [readline, houtput]
          rw [if_neg hends]
        rw [bind_run_error hread, if_neg hends]
    | cons l output =>
      obtain ⟨line, rfl, hne⟩ := h l (houtput ▸ List.mem_cons_self)
      have htexts : Texts output := fun l' hl' => h l' (houtput ▸ List.mem_cons_of_mem _ hl')
      have hread := readline_run houtput
      rw [known, houtput, first_cons, knownLoop, bind_run_ok hread, if_neg hne]
      cases hfound : foundIn T line with
      | some mac => exact ⟨output, rfl⟩
      | none =>
        rw [houtput] at hturns
        obtain ⟨rest, hrest⟩ := ih (p := unread p output) htexts (Nat.lt_of_succ_lt_succ hturns)
        exact ⟨rest, hrest⟩

/-- Nothing fails: the program is there, the pipe holds, and every line is a text. -/
structure Faultless (p : Bluetoothctl) : Prop where
  starts : p.starts
  closes : p.closes
  writes : 9 ≤ p.writes
  texts : Texts p.output

@[simp] theorem sent_writes (p : Bluetoothctl) (cmd : Str) :
    (sent p cmd).writes = p.writes - 1 := rfl

@[simp] theorem unread_writes (p : Bluetoothctl) (output : List (Option Str)) :
    (unread p output).writes = p.writes := rfl

theorem send_bind {α : Type} {p : Bluetoothctl} (h : 0 < p.writes) (cmd : Str)
    (f : Unit → Call Stuck Bluetoothctl α) : (send cmd >>= f) p = f () (sent p cmd) :=
  bind_run_ok (send_run h cmd)

theorem finish_ok (mac : Str) {p : Bluetoothctl} (hwrites : 3 ≤ p.writes) (hcloses : p.closes) :
    ∃ p', finish mac p = (.ok (some mac), p') ∧ p'.elmMac = some mac := by
  have hintroduce : introduce mac p = (.ok (), sent (sent (sent p ("pair ".toList ++ mac))
      ("trust ".toList ++ mac)) ("connect ".toList ++ mac)) := by
    rw [introduce, send_bind (by omega), send_bind (by rw [sent_writes]; omega),
      send_run (by rw [sent_writes, sent_writes]; omega)]
  have hclose : ∀ {p' : Bluetoothctl}, p'.closes = p.closes → close p' = (.ok (), p') :=
    fun h => if_pos (h.trans hcloses)
  have hfinish : finish mac p = (.ok (some mac), { sent (sent (sent p ("pair ".toList ++ mac))
      ("trust ".toList ++ mac)) ("connect ".toList ++ mac) with elmMac := some mac }) :=
    (bind_run_ok hintroduce).trans ((bind_run_ok (by rfl)).trans (bind_run_ok (hclose rfl)))
  exact ⟨_, hfinish, rfl⟩

/-- What is written before the first line is read. -/
theorem scan_begins (turns : Nat) {p : Bluetoothctl} (h : Faultless p) :
    ∃ q : Bluetoothctl, scan T turns p = (do
        let found ← scanLoop T turns
        send "scan off".toList
        return found : Call Stuck Bluetoothctl (Option Str)) q
      ∧ q.output = p.output ∧ q.ends = p.ends ∧ q.closes ∧ 5 ≤ q.writes := by
  have hwrites := h.writes
  refine ⟨sent (sent (sent (sent p "agent on".toList) "power on".toList) "default-agent".toList)
    "scan on".toList, ?_, rfl, rfl, h.closes, ?_⟩
  · rw [scan, send_bind (by omega), send_bind (by rw [sent_writes]; omega),
      send_bind (by rw [sent_writes, sent_writes]; omega),
      send_bind (by rw [sent_writes, sent_writes, sent_writes]; omega)]
  · rw [sent_writes, sent_writes, sent_writes, sent_writes]
    omega

/-- Where nothing fails, the search comes to what the second loop would over all the output. -/
theorem search_ends (turns : Nat) {p : Bluetoothctl} (h : Faultless p) :
    ∃ p', search T turns p = (known T p, p') ∧ 3 ≤ p'.writes ∧ p'.closes := by
  obtain ⟨q, hscan, houtput, hends, hcloses, hwrites⟩ := scan_begins (T := T) turns h
  have hloop := scanLoop_ends (T := T) turns (houtput ▸ h.texts)
  generalize hrun : scanLoop T turns q = r at hloop
  cases hloop with
  | found output hfirst =>
    rename_i mac
    have hfound : scan T turns p = (.ok (some mac), sent (unread q output) "scan off".toList) := by
      rw [hscan, bind_run_ok hrun, send_bind (by rw [unread_writes]; omega)]
      rfl
    refine ⟨sent (unread q output) "scan off".toList, ?_, ?_, hcloses⟩
    · rw [search, bind_run_ok hfound, known, ← houtput, hfirst]
      rfl
    · rw [sent_writes, unread_writes]
      omega
  | timeout htexts hfirst =>
    rename_i output
    have hnone : scan T turns p = (.ok none, sent (unread q output) "scan off".toList) := by
      rw [hscan, bind_run_ok hrun, send_bind (by rw [unread_writes]; omega)]
      rfl
    -- what the scan has not read is there for the second loop
    obtain ⟨rest, hknown⟩ := knownLoop_ends (T := T)
      (p := sent (sent (unread q output) "scan off".toList) "devices".toList) htexts
      (Nat.lt_succ_self _)
    have hsame : known T (sent (sent (unread q output) "scan off".toList) "devices".toList)
        = known T p := by
      simp only [known, sent, unread, ← hfirst, houtput, hends]
    refine ⟨unread (sent (sent (unread q output) "scan off".toList) "devices".toList) rest,
      ?_, ?_, hcloses⟩
    · rw [search, bind_run_ok hnone]
      refine (send_bind (by rw [sent_writes, unread_writes]; omega) _ _).trans ?_
      rw [hknown, hsame]
    · rw [unread_writes, sent_writes, sent_writes, unread_writes]
      omega
  | waiting hfirst hopen =>
    have hwaits : scan T turns p = (.error .waiting, unread q []) := by
      rw [hscan, bind_run_error hrun]
    refine ⟨unread q [], ?_, ?_, hcloses⟩
    · rw [search, bind_run_error hwaits, known, ← houtput, hfirst, ← hends, hopen]
      rfl
    · rw [unread_writes]
      omega

/--
**A scan that fails nowhere returns the first device that is named**, whether that is while it
scans or among the known devices, and keeps it. Where none is named it returns only if the
output ends, which it does not while the program runs.
-/
theorem scan_finds (T : Py.LowerCase) (turns : Nat) (p : Bluetoothctl) (h : Faultless p) :
    (∀ mac, first T p.output = some mac →
        (runBluetoothctlAndConnectObd2 T turns p).1 = some (some mac)
          ∧ (runBluetoothctlAndConnectObd2 T turns p).2.elmMac = some mac)
      ∧ (first T p.output = none →
        (runBluetoothctlAndConnectObd2 T turns p).1 = if p.ends then some none else none) := by
  obtain ⟨p', hsearch, hwrites, hcloses⟩ := search_ends (T := T) turns h
  have hpopen : popen p = (.ok (), p) := if_pos h.starts
  have hattempt : ∀ r q, (attempt T turns p) = (r, q) →
      runBluetoothctlAndConnectObd2 T turns p = (outcome r, q) := by
    intro r q hrun
    rw [runBluetoothctlAndConnectObd2, hrun]
  refine ⟨fun mac hfirst => ?_, fun hfirst => ?_⟩
  · rw [known, hfirst] at hsearch
    obtain ⟨q, hfinish, hmac⟩ := finish_ok mac hwrites hcloses
    rw [hattempt (.ok (some mac)) q]
    · exact ⟨rfl, hmac⟩
    · rw [attempt, bind_run_ok hpopen, bind_run_ok hsearch]
      exact hfinish
  · rw [known, hfirst] at hsearch
    -- without an address the scan ends with the output, or waits for ever
    by_cases hends : p.ends
    · have hsearch' : search T turns p = (.ok none, p') := hsearch.trans (by rw [if_pos hends])
      have hclose : close p' = (.ok (), p') := if_pos hcloses
      rw [hattempt (.ok none) p', if_pos hends]
      · rfl
      · rw [attempt, bind_run_ok hpopen, bind_run_ok hsearch']
        exact bind_run_ok hclose
    · have hsearch' : search T turns p = (.error .waiting, p') :=
        hsearch.trans (by rw [if_neg hends])
      rw [hattempt (.error .waiting) p', if_neg hends]
      · rfl
      · rw [attempt, bind_run_ok hpopen, bind_run_error hsearch']

/-- An adapter that is known but does not answer the scan. -/
def knownAdapter : Bluetoothctl where
  starts := true
  output := [some "Discovery started\n".toList, some "Device 00:1D:A5:68:98:8B obdii\n".toList]
  ends := false
  writes := 9
  closes := true
  written := []
  elmMac := none

/-- A device that is known already is found without a scan. -/
theorem scan_finds_known :
    (runBluetoothctlAndConnectObd2 .ascii 1 knownAdapter).1
      = some (some "00:1D:A5:68:98:8B".toList) := by
  have htexts : Texts knownAdapter.output := by
    intro l hl
    rcases List.mem_pair.mp hl with rfl | rfl
    · exact ⟨_, rfl, by decide⟩
    · exact ⟨_, rfl, by decide⟩
  have h : Faultless knownAdapter := ⟨rfl, rfl, by decide, htexts⟩
  exact ((scan_finds .ascii 1 knownAdapter h).1 _ (by decide +kernel)).1

end AutoDiag.Proof.BluetoothScan

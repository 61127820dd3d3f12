import AutoDiag.Gui.Pairing
import AutoDiag.Lib.Runs
import AutoDiag.Proof.BluetoothScan

/-!
# What is run with root rights

Whatever `bluetoothctl` prints and whatever is typed: the programs that run with root rights
are the release of all ports and the binding of a device that a scan has found, paired,
trusted and connected.
-/

namespace AutoDiag.Proof.BoundDevices

open Adapter Gui BluetoothScan

variable {T : Py.LowerCase}

/-! ## The address -/

/-- Six pairs of hexadecimal digits, with colons between them. -/
def Canonical (mac : Str) : Prop :=
  ∃ octets : List Str, octets.length = 6
    ∧ (∀ octet ∈ octets, octet.length = 2 ∧ ∀ c ∈ octet, (Hex.value c).isSome = true)
    ∧ mac = [':'].intercalate octets

theorem isMac_canonical {mac : Str} (h : isMac mac = true) (hend : mac.getLast? ≠ some '\n') :
    Canonical mac := by
  simp only [isMac, if_neg hend, Bool.and_eq_true, decide_eq_true_eq] at h
  obtain ⟨hlen, hall⟩ := h
  match mac, hlen with
  | [a, b, c0, d, e, c1, f, g, c2, i, j, c3, k, l, c4, m, n], _ =>
    simp [List.zipIdx] at hall
    obtain ⟨ha, hb, rfl, hd, he, rfl, hf, hg, rfl, hi, hj, rfl, hk, hl, rfl, hm, hn⟩ := hall
    refine ⟨[[a, b], [d, e], [f, g], [i, j], [k, l], [m, n]], rfl, ?_, rfl⟩
    simp [*]

/-- A scanned address has no newline, so what is bound is the address alone. -/
theorem address_canonical {mac : Str} (h : IsAddress mac) (hmac : isMac mac = true) :
    Canonical mac := by
  refine isMac_canonical hmac fun hend => ?_
  have hnewline := h.chars '\n' (List.mem_of_getLast? hend)
  exact absurd hnewline (by decide)

/-! ## The programs -/

/-- `sudo -S rfcomm release all`. -/
def releaseArgv : List Str :=
  ["sudo".toList, "-S".toList, "rfcomm".toList, "release".toList, "all".toList]

/-- `sudo -S rfcomm bind 0`, and the address. -/
def bindArgv (mac : Str) : List Str :=
  ["sudo".toList, "-S".toList, "rfcomm".toList, "bind".toList, "0".toList, mac]

/-- A program runs once, with the password as its input. -/
theorem runSudo_ran (sudoPass : Str) (args : List Str) (s : Shell) :
    (runSudo sudoPass args s).2.ran
      = s.ran ++ [⟨["sudo".toList, "-S".toList] ++ args, sudoPass ++ ['\n']⟩] := by
  unfold runSudo
  match s.results with
  | some _ :: _ => rfl
  | none :: _ => rfl
  | [] => rfl

theorem attemptBinding_ran (mac sudoPass : Str) (s : Shell) {program : Program}
    (h : program ∈ (attemptBinding mac sudoPass s).2.ran) :
    program ∈ s.ran ∨ program.input = sudoPass ++ ['\n']
      ∧ (program.argv = releaseArgv ∨ program.argv = bindArgv mac) := by
  have hrelease := runSudo_ran sudoPass ["rfcomm".toList, "release".toList, "all".toList] s
  cases hfirst : runSudo sudoPass ["rfcomm".toList, "release".toList, "all".toList] s with
  | mk r s' =>
    rw [hfirst] at hrelease
    -- what has run before the bind: the old programs and the release
    have hold : program ∈ s'.ran → program ∈ s.ran ∨ program.input = sudoPass ++ ['\n']
        ∧ (program.argv = releaseArgv ∨ program.argv = bindArgv mac) := by
      intro hp
      rw [hrelease] at hp
      rcases List.mem_append.mp hp with hp | hp
      · exact .inl hp
      · obtain rfl := List.mem_singleton.mp hp
        exact .inr ⟨rfl, .inl rfl⟩
    cases r with
    | error e =>
      rw [attemptBinding, Call.bind_run_error hfirst] at h
      exact hold h
    | ok code =>
      have hbind := runSudo_ran sudoPass ["rfcomm".toList, "bind".toList, "0".toList, mac] s'
      have hran : (attemptBinding mac sudoPass s).2.ran = (runSudo sudoPass
          ["rfcomm".toList, "bind".toList, "0".toList, mac] s').2.ran := by
        rw [attemptBinding, Call.bind_run_ok hfirst]
        cases hsecond : runSudo sudoPass ["rfcomm".toList, "bind".toList, "0".toList, mac] s' with
        | mk r'' s'' =>
          cases r'' with
          | ok code' => rw [Call.bind_run_ok hsecond]; rfl
          | error e => rw [Call.bind_run_error hsecond]
      rw [hran, hbind] at h
      rcases List.mem_append.mp h with hp | hp
      · exact hold hp
      · obtain rfl := List.mem_singleton.mp hp
        exact .inr ⟨rfl, .inr rfl⟩

/-- What a binding runs, it runs for an address that it has checked. -/
theorem binding_ran {elmMac : Option Str} {password : Str} {s : Shell} {program : Program}
    (h : program ∈ (runRfcommBinding elmMac (some password) s).2.ran) :
    program ∈ s.ran ∨ program.input = password ++ ['\n'] ∧ ∃ mac, elmMac = some mac
      ∧ isMac mac = true ∧ (program.argv = releaseArgv ∨ program.argv = bindArgv mac) := by
  cases elmMac with
  | none => exact .inl h
  | some mac =>
    rw [runRfcommBinding] at h
    by_cases hempty : mac = []
    · rw [if_pos hempty] at h
      exact .inl h
    · by_cases hmac : isMac mac = true
      · rw [if_neg hempty, if_pos hmac] at h
        have hran : program ∈ (attemptBinding mac password s).2.ran := by
          cases hbind : attemptBinding mac password s with
          | mk r s' =>
            rw [Option.getD_some, hbind] at h
            cases r with
            | ok bound => exact h
            | error e => exact h
        rcases attemptBinding_ran mac password s hran with hold | ⟨hinput, hargv⟩
        · exact .inl hold
        · exact .inr ⟨hinput, mac, rfl, hmac, hargv⟩
      · rw [if_neg hempty, if_neg hmac] at h
        exact .inl h

/-! ## The run -/

/-- A scan of the run has found the address and introduced the device. -/
structure Met (T : Py.LowerCase) (events : List PairingEvent) (s : Pairing) (mac : Str) : Prop where
  address : IsAddress mac
  introduced : linesOf ["pair ".toList ++ mac, "trust ".toList ++ mac, "connect ".toList ++ mac]
    ⊆ s.written
  announced : ∃ turns process, .scan turns process ∈ events ∧ Announced T process mac

/-- A program that may run with root rights, and what it is given to read. -/
structure Allowed (T : Py.LowerCase) (events : List PairingEvent) (s : Pairing)
    (program : Program) : Prop where
  argv : program.argv = releaseArgv
    ∨ ∃ mac, program.argv = bindArgv mac ∧ Canonical mac ∧ Met T events s mac
  input : ∃ password, .connect (some password) ∈ events ∧ password ≠ []
    ∧ program.input = password ++ ['\n']

structure Safe (T : Py.LowerCase) (events : List PairingEvent) (s : Pairing) : Prop where
  elmMac : ∀ mac ∈ s.elmMac, Met T events s mac
  binding : ∀ password ∈ s.binding, .connect (some password) ∈ events ∧ password ≠ []
  ran : ∀ program ∈ s.ran, Allowed T events s program

variable {events : List PairingEvent} {s s' : Pairing}

/-- What was written stays written. -/
theorem Met.later {mac : Str} (h : Met T events s mac) (hwritten : s.written ⊆ s'.written) :
    Met T events s' mac :=
  ⟨h.address, fun _ hl => hwritten (h.introduced hl), h.announced⟩

theorem Allowed.later {program : Program} (h : Allowed T events s program)
    (hwritten : s.written ⊆ s'.written) : Allowed T events s' program := by
  refine ⟨?_, h.input⟩
  rcases h.argv with hrelease | ⟨mac, hargv, hmac, hmet⟩
  · exact .inl hrelease
  · exact .inr ⟨mac, hargv, hmac, hmet.later hwritten⟩

/-- A scan runs nothing; it only lets an address be met. -/
theorem scan_safe {turns : Nat} {process : Bluetoothctl} (h : Safe T events s)
    (he : .scan turns process ∈ events) : Safe T events (s.scan T turns process) := by
  obtain ⟨asks, found, hscanned⟩ := scan_commands T turns
    { process with written := s.written, elmMac := s.elmMac }
  obtain ⟨us, hwritten, _⟩ := hscanned.written
  have hlater : s.written ⊆ (s.scan T turns process).written := by
    intro line hline
    rw [Pairing.scan]
    exact hwritten ▸ List.mem_append_left us hline
  refine ⟨?_, h.binding, fun program hp => (h.ran program hp).later hlater⟩
  intro mac hmac
  -- an address from an earlier scan stays met, a new one has been named by this scan
  rcases hscanned.elmMac with hsame | ⟨hall, _, hnew⟩
  · have hold : (s.scan T turns process).elmMac = s.elmMac := hsame
    exact (h.elmMac mac (hold ▸ hmac)).later hlater
  · have hfound : mac ∈ found := hnew ▸ hmac
    obtain ⟨hannounced, haddress⟩ := hscanned.announced mac hfound
    refine ⟨haddress, ?_, turns, process, he, hannounced⟩
    intro line hline
    obtain rfl : found = some mac := hfound
    rw [Pairing.scan]
    refine hall ▸ List.mem_append_right _ ?_
    rw [linesOf, commands, List.map_append]
    exact List.mem_append_right _ hline

theorem startBindThread_safe {sudoPass : Option Str} (h : Safe T events s)
    (he : .connect sudoPass ∈ events) : Safe T events (s.startBindThread sudoPass) := by
  unfold Pairing.startBindThread
  split
  · split
    · exact h
    · rename_i password hempty
      refine ⟨fun m hm => (h.elmMac m hm).later (List.Subset.refl _), fun password' hp => ?_,
        fun program hp => (h.ran program hp).later (List.Subset.refl _)⟩
      rcases List.mem_append.mp hp with hp | hp
      · exact h.binding password' hp
      · obtain rfl := List.mem_singleton.mp hp
        exact ⟨he, hempty⟩
  · exact h

theorem bind_safe {thread : Nat} {results : List (Option Int)} (h : Safe T events s) :
    Safe T events (s.bind thread results) := by
  unfold Pairing.bind
  split
  · rename_i password hpassword
    refine ⟨fun m hm => (h.elmMac m hm).later (List.Subset.refl _),
      fun p hp => h.binding p (List.mem_of_mem_eraseIdx hp), ?_⟩
    intro program hp
    rcases binding_ran hp with hold | ⟨hinput, mac, hmac, hvalid, hargv⟩
    · exact (h.ran program hold).later (List.Subset.refl _)
    -- the thread reads the global when it runs, so it may be of a later scan than the click
    · have hmet := h.elmMac mac hmac
      obtain ⟨htyped, hempty⟩ := h.binding password (List.mem_of_getElem? hpassword)
      refine ⟨?_, password, htyped, hempty, hinput⟩
      rcases hargv with hrelease | hbind
      · exact .inl hrelease
      · exact .inr ⟨mac, hbind, address_canonical hmet.address hvalid,
          hmet.later (List.Subset.refl _)⟩
  · exact h

/--
**Only devices that a scan has found are bound.** In every run of clicks, scans and threads,
a program that runs with root rights has fixed arguments, or those and the canonical address
of a device that the output of a scan named and that has been paired, trusted and connected;
a password is what it reads and never an argument.
-/
theorem bound_devices (T : Py.LowerCase) (events : List PairingEvent) :
    ∀ program ∈ (Runs.after (Pairing.step T) .start events).ran,
      Allowed T events (Runs.after (Pairing.step T) .start events) program := by
  have hstart : Safe T events .start :=
    ⟨fun _ h => (nomatch h), fun _ h => (nomatch h), fun _ h => (nomatch h)⟩
  refine (Runs.always_of_mem ?_ hstart).ran
  intro s e he h
  cases e with
  | scan turns process => exact scan_safe h he
  | connect sudoPass => exact startBindThread_safe h he
  | bind thread results => exact bind_safe h

/-- A scan, a click, and the thread that it starts. -/
def knownBinding : List PairingEvent :=
  [.scan 1 knownAdapter, .connect (some "secret".toList), .bind 0 [some 0, some 0]]

theorem bound_devices_known :
    Allowed .ascii knownBinding (Runs.after (Pairing.step .ascii) .start knownBinding)
      ⟨bindArgv "00:1D:A5:68:98:8B".toList, "secret\n".toList⟩ := by
  have hran : ⟨bindArgv "00:1D:A5:68:98:8B".toList, "secret\n".toList⟩
      ∈ (Runs.after (Pairing.step .ascii) .start knownBinding).ran := by
    decide +kernel
  exact bound_devices .ascii knownBinding _ hran

end AutoDiag.Proof.BoundDevices

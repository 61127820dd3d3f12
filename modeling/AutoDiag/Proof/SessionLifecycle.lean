import AutoDiag.Lib.Runs
import AutoDiag.Obd.Session
import AutoDiag.Transport.Elm327

/-!
# Who holds the serial port

The session and the adapter transport keep separate notions of being open. Along
a run they agree, and no handle is lost, as long as every init command is
answered and the serial object can be closed; the first step on which one of the
two fails breaks the agreement.
-/

namespace AutoDiag.Proof

open Elm327 Session

variable {ι δ : Type}

/-! ## Watching the handles -/

/-- What happened to a handle. -/
inductive HandleEvent (ι : Type) where
  | obtained (handle : ι)
  | closed (handle : ι)
  deriving DecidableEq

/-- The same serial library, with a log of the handles beside its devices. -/
def loggedSerial (serial : Serial ι δ) : Serial ι (δ × List (HandleEvent ι)) where
  factory := fun (d, log) =>
    match serial.factory d with
    | (.ok handle, d) => (.ok handle, d, log ++ [.obtained handle])
    | (.error e, d) => (.error e, d, log)
  port handle :=
    { write := fun data (d, log) =>
        let r := (serial.port handle).write data d
        (r.1, r.2, log)
      readUntil := fun (d, log) =>
        let r := (serial.port handle).readUntil d
        (r.1, r.2, log) }
  close handle := fun (d, log) =>
    let r := serial.close handle d
    (r.1, r.2, log ++ [.closed handle])

/-- A session over an adapter whose handles are watched. -/
abbrev Watched (ι δ : Type) := Session (Held ι (δ × List (HandleEvent ι)))

/-- `Elm327Transport`, over a watched serial library. -/
def watchedTransport (serial : Serial ι δ) : Lifecycle (Held ι (δ × List (HandleEvent ι))) :=
  ⟨openTransport (loggedSerial serial), closeTransport (loggedSerial serial)⟩

/-- One call of a user. -/
def use (serial : Serial ι δ) : Watched ι δ → Op → Watched ι δ := step (watchedTransport serial)

/-- A new session over a new transport. -/
def fresh (d : δ) : Watched ι δ := ⟨⟨none, d, []⟩, false⟩

/-- The session is marked open exactly while the transport holds a handle, and every handle
obtained is the one held or was closed. -/
structure Sound (s : Watched ι δ) : Prop where
  flag : s.isOpen = true ↔ s.transport.ser.isSome = true
  kept : ∀ handle, .obtained handle ∈ s.transport.device.2 →
    s.transport.ser = some handle ∨ .closed handle ∈ s.transport.device.2

/-- Every command is written and answered. -/
def Answered (port : SerialPort δ) : List Str → δ → Prop
  | [], _ => True
  | command :: commands, d =>
    ∃ text d', sendLine port command d = (.ok text, d') ∧ Answered port commands d'

/-- A call on which no init command and no closing of the serial object raises. -/
def Untroubled (serial : Serial ι δ) (s : Watched ι δ) : Op → Prop
  | .open => s.isOpen = false → ∀ handle d,
      serial.factory s.transport.device.1 = (.ok handle, d) →
        Answered (serial.port handle) initCommands d
  | .close => s.isOpen = true → ∀ handle, s.transport.ser = some handle →
      ∃ d, serial.close handle s.transport.device.1 = (.ok (), d)

/-! ## The init commands -/

/-- A command opens and closes no handle, so the log stays as it is. -/
theorem sendLine_logged (serial : Serial ι δ) (handle : ι) (command : Str) (d : δ)
    (log : List (HandleEvent ι)) :
    sendLine ((loggedSerial serial).port handle) command (d, log)
      = ((sendLine (serial.port handle) command d).1,
          (sendLine (serial.port handle) command d).2, log) := by
  have hwrite : ∀ data, ((loggedSerial serial).port handle).write data (d, log)
      = (((serial.port handle).write data d).1, ((serial.port handle).write data d).2, log) :=
    fun _ => rfl
  have hread : ∀ d', ((loggedSerial serial).port handle).readUntil (d', log)
      = (((serial.port handle).readUntil d').1, ((serial.port handle).readUntil d').2, log) :=
    fun _ => rfl
  unfold sendLine
  cases hw : (serial.port handle).write ((command ++ ['\r']).map fun c => UInt8.ofNat c.toNat) d with
  | mk r d' =>
    have hw' := hwrite ((command ++ ['\r']).map fun c => UInt8.ofNat c.toNat)
    rw [hw] at hw'
    cases r with
    | error e => rw [Call.bind_run_error hw, Call.bind_run_error hw']
    | ok u =>
      rw [Call.bind_run_ok hw, Call.bind_run_ok hw']
      have hr' := hread d'
      cases hr : (serial.port handle).readUntil d' with
      | mk r d'' =>
        rw [hr] at hr'
        cases r with
        | error e => rw [Call.bind_run_error hr, Call.bind_run_error hr']
        | ok data => rw [Call.bind_run_ok hr, Call.bind_run_ok hr']; rfl

theorem sendAll_logged (serial : Serial ι δ) (handle : ι) (commands : List Str) (d : δ)
    (log : List (HandleEvent ι)) :
    sendAll ((loggedSerial serial).port handle) commands (d, log)
      = ((sendAll (serial.port handle) commands d).1,
          (sendAll (serial.port handle) commands d).2, log) := by
  induction commands generalizing d with
  | nil => rfl
  | cons command commands ih =>
    have hline := sendLine_logged serial handle command d log
    cases hs : sendLine (serial.port handle) command d with
    | mk r d' =>
      rw [hs] at hline
      cases r with
      | error e =>
        rw [sendAll, sendAll, Call.bind_run_error hline, Call.bind_run_error hs]
      | ok text =>
        rw [sendAll, sendAll, Call.bind_run_ok hline, Call.bind_run_ok hs]
        exact ih d'

/-- The commands all get through exactly when none of them raises. -/
theorem answered_iff {port : SerialPort δ} {commands : List Str} {d : δ} :
    Answered port commands d ↔ (sendAll port commands d).1 = .ok () := by
  induction commands generalizing d with
  | nil => exact ⟨fun _ => rfl, fun _ => trivial⟩
  | cons command commands ih =>
    rw [sendAll, Answered]
    cases hs : sendLine port command d with
    | mk r d' =>
      cases r with
      | error e =>
        rw [Call.bind_run_error hs]
        simp
      | ok text =>
        rw [Call.bind_run_ok hs, ← ih]
        constructor
        · rintro ⟨_, _, heq, hrest⟩
          cases heq
          exact hrest
        · intro hrest
          exact ⟨text, d', rfl, hrest⟩

/-- A handle that the factory gives is held before the first command is sent. -/
theorem openTransport_obtained {serial : Serial ι δ} {ser : Option ι} {d d' : δ}
    {log : List (HandleEvent ι)} {handle : ι} (hf : serial.factory d = (.ok handle, d')) :
    openTransport (loggedSerial serial) ⟨ser, d, log⟩
      = ((sendAll (serial.port handle) initCommands d').1,
          ⟨some handle, (sendAll (serial.port handle) initCommands d').2,
            log ++ [.obtained handle]⟩) := by
  have hf' : (loggedSerial serial).factory (d, log)
      = (.ok handle, d', log ++ [.obtained handle]) := by
    simp [loggedSerial, hf]
  simp only [openTransport, hf', sendAll_logged]

theorem openTransport_refused {serial : Serial ι δ} {ser : Option ι} {d d' : δ}
    {log : List (HandleEvent ι)} {e : Exn} (hf : serial.factory d = (.error e, d')) :
    openTransport (loggedSerial serial) ⟨ser, d, log⟩ = (.error e, ⟨ser, d', log⟩) := by
  have hf' : (loggedSerial serial).factory (d, log) = (.error e, d', log) := by
    simp [loggedSerial, hf]
  simp only [openTransport, hf']

/-! ## One call -/

theorem sound_fresh (d : δ) : Sound (fresh d : Watched ι δ) where
  flag := by simp [fresh]
  kept := by simp [fresh]

theorem sound_open_iff {serial : Serial ι δ} {s : Watched ι δ} (h : Sound s) :
    Sound (use serial s .open) ↔ Untroubled serial s .open := by
  rcases s with ⟨⟨ser, d, log⟩, isOpen⟩
  cases isOpen with
  | true => exact ⟨fun _ hf => absurd hf (by simp), fun _ => h⟩
  | false =>
    -- not marked open, so no handle is held and every one obtained before was closed
    have hser : ser = none := by
      cases ser with
      | none => rfl
      | some handle => exact absurd (h.flag.mpr rfl) (by simp)
    subst hser
    cases hf : serial.factory d with
    | mk r d' =>
      cases r with
      | error e =>
        rw [use, step_open_error (openTransport_refused hf)]
        refine ⟨fun _ _ handle d'' heq => ?_, fun _ => ⟨h.flag, h.kept⟩⟩
        rw [hf] at heq
        exact absurd heq (by simp)
      | ok handle =>
        have hopen := @openTransport_obtained _ _ serial none d d' log handle hf
        have hcond : Untroubled serial ⟨⟨none, d, log⟩, false⟩ .open
            ↔ (sendAll (serial.port handle) initCommands d').1 = .ok () := by
          rw [← answered_iff]
          refine ⟨fun hc => hc rfl handle d' hf, fun ha _ handle' d'' heq => ?_⟩
          rw [hf] at heq
          cases heq
          exact ha
        rw [hcond]
        cases hs : (sendAll (serial.port handle) initCommands d').1 with
        | error e =>
          -- the transport keeps the handle, the session stays unmarked
          rw [hs] at hopen
          rw [use, step_open_error hopen]
          exact ⟨fun hsound => absurd (hsound.flag.mpr rfl) (by simp), fun he => by simp at he⟩
        | ok u =>
          rw [hs] at hopen
          rw [use, step_open_ok hopen]
          refine ⟨fun _ => rfl, fun _ => ⟨by simp, fun handle' hmem => ?_⟩⟩
          simp only [List.mem_append, List.mem_singleton] at hmem ⊢
          rcases hmem with hold | hnew
          · exact .inr (.inl ((h.kept handle' hold).resolve_left (by simp)))
          · cases hnew
            exact .inl rfl

theorem sound_close_iff {serial : Serial ι δ} {s : Watched ι δ} (h : Sound s) :
    Sound (use serial s .close) ↔ Untroubled serial s .close := by
  rcases s with ⟨⟨ser, d, log⟩, isOpen⟩
  cases isOpen with
  | false => exact ⟨fun _ hf => absurd hf (by simp), fun _ => h⟩
  | true =>
    obtain ⟨handle, rfl⟩ : ∃ handle, ser = some handle :=
      Option.isSome_iff_exists.mp (h.flag.mp rfl)
    have hclose : closeTransport (loggedSerial serial) ⟨some handle, d, log⟩
        = ((serial.close handle d).1,
            ⟨none, (serial.close handle d).2, log ++ [.closed handle]⟩) := rfl
    have hcond : Untroubled serial ⟨⟨some handle, d, log⟩, true⟩ .close
        ↔ (serial.close handle d).1 = .ok () := by
      constructor
      · intro hc
        obtain ⟨d', heq⟩ := hc rfl handle rfl
        rw [heq]
      · intro hc _ handle' heq
        cases heq
        exact ⟨_, Prod.ext hc rfl⟩
    rw [hcond]
    cases hs : (serial.close handle d).1 with
    | error e =>
      -- the transport lets go of the handle, the session stays marked
      rw [hs] at hclose
      rw [use, step_close_error hclose]
      exact ⟨fun hsound => absurd (hsound.flag.mp rfl) (by simp), fun he => by simp at he⟩
    | ok u =>
      rw [hs] at hclose
      rw [use, step_close_ok hclose]
      refine ⟨fun _ => rfl, fun _ => ⟨by simp, fun handle' hmem => ?_⟩⟩
      simp only [List.mem_append, List.mem_singleton, reduceCtorEq, or_false] at hmem ⊢
      rcases h.kept handle' hmem with hheld | hclosed
      · exact .inr (.inr (by rw [Option.some.inj hheld]))
      · exact .inr (.inl hclosed)

/-! ## Every run -/

/-- **Session and transport agree on every state of a run, and no handle is lost, exactly when no
init command raises after the factory returned a handle and no closing of a serial object
raises.** -/
theorem session_lifecycle (serial : Serial ι δ) (d : δ) (ops : List Op) :
    Runs.Everywhere (use serial) Sound (fresh d) ops
      ↔ Runs.Each (use serial) (Untroubled serial) (fresh d) ops := by
  refine Runs.everywhere_iff_each (fun s op h => ?_) (sound_fresh d)
  cases op with
  | «open» => exact sound_open_iff h
  | close => exact sound_close_iff h

/-- A factory that numbers its handles, and an adapter that never answers. -/
def silentSerial : Serial Nat Nat where
  factory := fun n => (.ok n, n + 1)
  port _ := ⟨fun _ n => (.ok (), n), fun n => (.error (.transportError "read failed"), n)⟩
  close _ := fun n => (.ok (), n)

/-- Opened twice over a silent adapter and closed: the first handle is neither held nor closed,
and the second one is still held by a session that is not marked open. -/
theorem session_lifecycle_leaks :
    Runs.after (use silentSerial) (fresh 0) [.open, .open, .close]
        = ⟨⟨some 1, 2, [.obtained 0, .obtained 1]⟩, false⟩
      ∧ ¬ Runs.Everywhere (use silentSerial) Sound (fresh 0) [.open, .open, .close] := by
  have hend : Runs.after (use silentSerial) (fresh 0) [.open, .open, .close]
      = ⟨⟨some 1, 2, [.obtained 0, .obtained 1]⟩, false⟩ := rfl
  refine ⟨hend, fun h => ?_⟩
  have hsound := h [.open, .open, .close] [] rfl
  rw [hend] at hsound
  exact absurd (hsound.kept 0 (by simp)) (by simp)

end AutoDiag.Proof

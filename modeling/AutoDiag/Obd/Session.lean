import AutoDiag.Transport.Base

/-!
# Diagnostic sessions

`DiagnosticSession` keeps a flag of its own beside its transport: `open` and
`close` do nothing when the flag says that there is nothing to do.
-/

namespace AutoDiag

/-- How a transport is acquired and released. -/
structure Lifecycle (τ : Type) where
  openTransport : Call Exn τ Unit
  closeTransport : Call Exn τ Unit

/-- A `DiagnosticSession` and its transport. -/
structure Session (τ : Type) where
  transport : τ
  isOpen : Bool

namespace Session

variable {τ : Type}

/-- `DiagnosticSession.open`. -/
def openSession (t : Lifecycle τ) : Call Exn (Session τ) Unit := fun s =>
  if s.isOpen = false then
    match t.openTransport s.transport with
    | (.ok _, transport) => (.ok (), ⟨transport, true⟩)
    | (.error e, transport) => (.error e, { s with transport })
  else (.ok (), s)

/-- `DiagnosticSession.close`. -/
def closeSession (t : Lifecycle τ) : Call Exn (Session τ) Unit := fun s =>
  if s.isOpen = true then
    match t.closeTransport s.transport with
    | (.ok _, transport) => (.ok (), ⟨transport, false⟩)
    | (.error e, transport) => (.error e, { s with transport })
  else (.ok (), s)

/-- What a user of the session does with it. -/
inductive Op where
  | open
  | close
  deriving DecidableEq, Repr

/-- The session after one call, whether or not it raised. -/
def step (t : Lifecycle τ) (s : Session τ) : Op → Session τ
  | .open => (openSession t s).2
  | .close => (closeSession t s).2

variable {t : Lifecycle τ} {x x' : τ}

theorem step_open_ok (h : t.openTransport x = (.ok (), x')) :
    step t ⟨x, false⟩ .open = ⟨x', true⟩ := by
  simp [step, openSession, h]

theorem step_open_error {e : Exn} (h : t.openTransport x = (.error e, x')) :
    step t ⟨x, false⟩ .open = ⟨x', false⟩ := by
  simp [step, openSession, h]

theorem step_close_ok (h : t.closeTransport x = (.ok (), x')) :
    step t ⟨x, true⟩ .close = ⟨x', false⟩ := by
  simp [step, closeSession, h]

theorem step_close_error {e : Exn} (h : t.closeTransport x = (.error e, x')) :
    step t ⟨x, true⟩ .close = ⟨x', true⟩ := by
  simp [step, closeSession, h]

end Session

end AutoDiag

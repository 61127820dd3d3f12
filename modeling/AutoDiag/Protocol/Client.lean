import AutoDiag.Protocol.Nrc
import AutoDiag.Transport.Base

/-!
# The request/response core of the diagnostic clients

`UDSClient` and `KWP2000Client` send a request, wait through response-pending
replies and check the one that ends the exchange, by the same four methods; only
the exceptions they raise differ. `Family` is that difference.
-/

namespace AutoDiag

/-- The two clients. -/
inductive Family where
  | uds
  | kwp
  deriving DecidableEq, Repr

/-- The base class of what a client raises. -/
def Family.exn : Family → ClientError → Exn
  | .uds => .udsError
  | .kwp => .kwpError

/-- The protocol's name in the text of a refusal. -/
def Family.protocol : Family → String
  | .uds => "UDS"
  | .kwp => "KWP2000"

/-- A client over a transport. -/
structure Client (σ : Type) where
  family : Family
  transport : Transport σ
  maxPending : Nat

namespace Client

/-- `f"{b:02X}"` of a byte. -/
def hex2 (b : UInt8) : String := String.ofList (Hex.ofByte b)

/-- `NegativeResponseError(sid, nrc)`, respectively `KwpNegativeResponseError(sid, nrc)`. -/
def negativeResponse (f : Family) (sid nrc : UInt8) : Exn :=
  f.exn (.negativeResponse sid.toNat nrc.toNat (Nrc.name nrc)
    (f.protocol ++ " 0x" ++ hex2 sid ++ " negative response: 0x" ++ hex2 nrc ++ " "
      ++ Nrc.name nrc))

/-- `UnexpectedResponseError`, for a reply that starts with `got`. -/
def unexpectedResponse (f : Family) (sid : UInt8) (got : Option UInt8) : Exn :=
  f.exn (.unexpectedResponse ("expected response SID 0x" ++ hex2 (sid + 0x40) ++ ", got "
    ++ match got with
      | some b => "0x" ++ hex2 b
      | none => "nothing"))

/-- `_pick`. -/
def pick (f : Family) (responses : List EcuResponse) : Except Exn Bytes :=
  match firstData responses with
  | some data => .ok data
  | none => .error (f.exn (.timeout "no response from ECU"))

/-- `7F <sid> 78`: the ECU is still at it. -/
def isPending : Bytes → Bool
  | a :: _ :: c :: _ => a == 0x7F && c == Nrc.responsePending
  | _ => false

variable {σ : Type}

/-- `_await_final`; the counter runs down from `max_pending` instead of up to it. -/
def awaitFinal (c : Client σ) : Nat → Bytes → Call Exn σ Bytes
  | 0, resp =>
    if isPending resp then
      Call.raise (c.family.exn (.timeout "too many responsePending (0x78) replies"))
    else pure resp
  | left + 1, resp =>
    if isPending resp then do
      let more ← c.transport.receive
      let resp ← Call.ofExcept (pick c.family more)
      awaitFinal c left resp
    else pure resp

/-- `_check`. -/
def check (f : Family) (resp : Bytes) (sid : UInt8) : Except Exn Unit :=
  if resp[0]? = some 0x7F then
    .error (negativeResponse f sid (resp[2]?.getD 0x10))
  else if resp[0]? ≠ some (sid + 0x40) then
    .error (unexpectedResponse f sid resp[0]?)
  else .ok ()

/-- `_send`. -/
def send (c : Client σ) (sid : UInt8) (data : Bytes) (expectResponse : Bool) :
    Call Exn σ Bytes := do
  let responses ← c.transport.request (sid :: data) false
  if expectResponse = false then
    return []
  else
    let resp ← Call.ofExcept (pick c.family responses)
    let resp ← c.awaitFinal c.maxPending resp
    Call.ofExcept (check c.family resp sid)
    return resp.drop 1 -- strip the response SID

/-! ## One exchange, step by step -/

/-- The exceptions of a family tell its errors apart. -/
@[simp] theorem Family.exn_inj {f : Family} {e e' : ClientError} : f.exn e = f.exn e' ↔ e = e' := by
  cases f with
  | uds => exact Exn.udsError.injEq e e' ▸ Iff.rfl
  | kwp => exact Exn.kwpError.injEq e e' ▸ Iff.rfl

theorem pick_of_some {f : Family} {rs : List EcuResponse} {m : Bytes} (h : firstData rs = some m) :
    pick f rs = .ok m := by
  rw [pick, h]

theorem pick_of_none {f : Family} {rs : List EcuResponse} (h : firstData rs = none) :
    pick f rs = .error (f.exn (.timeout "no response from ECU")) := by
  rw [pick, h]

theorem awaitFinal_final (c : Client σ) (left : Nat) {m : Bytes} (h : isPending m = false)
    (s : σ) : c.awaitFinal left m s = (.ok m, s) := by
  have hp : ¬ isPending m = true := by rw [h]; decide
  cases left with
  | zero => rw [awaitFinal, if_neg hp, Call.pure_run]
  | succ left => rw [awaitFinal, if_neg hp, Call.pure_run]

/-- A pending message is followed by whatever the transport delivers next. -/
theorem awaitFinal_next (c : Client σ) (left : Nat) {m m' : Bytes} (h : isPending m = true)
    {s s' : σ} {more : List EcuResponse} (hr : c.transport.receive s = (.ok more, s'))
    (hf : firstData more = some m') : c.awaitFinal (left + 1) m s = c.awaitFinal left m' s' := by
  rw [awaitFinal, if_pos h, Call.bind_run_ok hr]
  exact Call.bind_run_ok (by rw [pick_of_some hf]; rfl)

theorem awaitFinal_silent (c : Client σ) (left : Nat) {m : Bytes} (h : isPending m = true)
    {s s' : σ} {more : List EcuResponse} (hr : c.transport.receive s = (.ok more, s'))
    (hf : firstData more = none) :
    c.awaitFinal (left + 1) m s
      = (.error (c.family.exn (.timeout "no response from ECU")), s') := by
  rw [awaitFinal, if_pos h, Call.bind_run_ok hr]
  exact Call.bind_run_error (by rw [pick_of_none hf]; rfl)

/-- A pending message with no receive left is a timeout. -/
theorem awaitFinal_exhausted (c : Client σ) {m : Bytes} (h : isPending m = true) (s : σ) :
    c.awaitFinal 0 m s
      = (.error (c.family.exn (.timeout "too many responsePending (0x78) replies")), s) := by
  rw [awaitFinal, if_pos h, Call.raise]

/-- What `_send` makes of the message its exchange ended on. -/
def settle (f : Family) (sid : UInt8) (resp : Bytes) : Except Exn Bytes :=
  match check f resp sid with
  | .ok _ => .ok (resp.drop 1)
  | .error e => .error e

/-- **A request whose exchange ends on a message returns what that message settles to.** -/
theorem send_of_final (c : Client σ) {sid : UInt8} {data m resp : Bytes} {s s' s'' : σ}
    {rs : List EcuResponse} (hreq : c.transport.request (sid :: data) false s = (.ok rs, s'))
    (hf : firstData rs = some m) (hawait : c.awaitFinal c.maxPending m s' = (.ok resp, s'')) :
    c.send sid data true s = (settle c.family sid resp, s'') := by
  have hpick : (Call.ofExcept (pick c.family rs) : Call Exn σ Bytes) s' = (.ok m, s') := by
    rw [pick_of_some hf]; rfl
  refine (Call.bind_run_ok hreq).trans ((Call.bind_run_ok hpick).trans
    ((Call.bind_run_ok hawait).trans ?_))
  unfold settle
  cases hc : check c.family resp sid with
  | ok u => exact (Call.bind_run_ok (a := u) rfl).trans rfl
  | error e => exact Call.bind_run_error rfl

/-- A request whose exchange does not end raises what the waiting raised. -/
theorem send_of_no_final (c : Client σ) {sid : UInt8} {data m : Bytes} {e : Exn} {s s' s'' : σ}
    {rs : List EcuResponse} (hreq : c.transport.request (sid :: data) false s = (.ok rs, s'))
    (hf : firstData rs = some m) (hawait : c.awaitFinal c.maxPending m s' = (.error e, s'')) :
    c.send sid data true s = (.error e, s'') := by
  have hpick : (Call.ofExcept (pick c.family rs) : Call Exn σ Bytes) s' = (.ok m, s') := by
    rw [pick_of_some hf]; rfl
  exact (Call.bind_run_ok hreq).trans ((Call.bind_run_ok hpick).trans (Call.bind_run_error hawait))

theorem check_ok_iff {f : Family} {m : Bytes} {sid : UInt8} (hsid : sid + 0x40 ≠ 0x7F) :
    check f m sid = .ok () ↔ ∃ rest, m = (sid + 0x40) :: rest := by
  unfold check
  cases m with
  | nil => simp
  | cons b rest =>
    by_cases hneg : b = 0x7F
    · subst hneg
      simp only [List.getElem?_cons_zero, if_true]
      constructor
      · intro h; simp at h
      · rintro ⟨_, h⟩
        exact absurd (List.cons.inj h).1.symm hsid
    · by_cases hpos : b = sid + 0x40
      · subst hpos
        simp [hneg]
      · simp [hneg, hpos]

theorem settle_ok_iff {f : Family} {m rest : Bytes} {sid : UInt8} (hsid : sid + 0x40 ≠ 0x7F) :
    settle f sid m = .ok rest ↔ m = (sid + 0x40) :: rest := by
  unfold settle
  cases hc : check f m sid with
  | ok u =>
      obtain ⟨rest₀, rfl⟩ := (check_ok_iff hsid).mp hc
      simp
  | error e =>
      refine ⟨fun h => by simp at h, ?_⟩
      intro h
      have hok := (check_ok_iff (f := f) hsid).mpr ⟨rest, h⟩
      exact absurd (hc.symm.trans hok) (by simp)

theorem not_pending_of_positive {b : UInt8} {rest : Bytes} (h : b ≠ 0x7F) :
    isPending (b :: rest) = false := by
  match rest with
  | [] => rfl
  | [_] => rfl
  | _ :: _ :: _ => simp [isPending, h]

end Client

end AutoDiag

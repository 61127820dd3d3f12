import AutoDiag.Lib.Call
import AutoDiag.Python.Builtins

/-!
# Binding the adapter to a port: `src/adapter/initialization.py`

Two programs are run with root rights. The address is an argument of the second one, the
password is what both are given to read.
-/

namespace AutoDiag.Adapter

/-- `_MAC_RE.match`; the `$` of the expression lets one newline follow. -/
def isMac (s : Str) : Bool :=
  let octets := if s.getLast? = some '\n' then s.dropLast else s
  octets.length = 17 && octets.zipIdx.all fun (c, i) =>
    if i % 3 = 2 then c == ':' else (Hex.value c).isSome

/-- A program that is run: its arguments, and what it can read. -/
structure Program where
  argv : List Str
  input : Str
deriving DecidableEq, Repr

/-- What the next programs return, `none` where `subprocess.run` raises; and those that have been
run. -/
structure Shell where
  results : List (Option Int)
  ran : List Program
deriving DecidableEq, Repr

/-- `_sudo`, with the password. -/
def runSudo (sudoPass : Str) (args : List Str) : Call Unit Shell Int := fun s =>
  let ran := s.ran ++ [⟨["sudo".toList, "-S".toList] ++ args, sudoPass ++ ['\n']⟩]
  match s.results with
  | some returncode :: results => (.ok returncode, ⟨results, ran⟩)
  | none :: results => (.error (), ⟨results, ran⟩)
  | [] => (.error (), ⟨[], ran⟩)

/-- The body of the `try`. -/
def attemptBinding (elmMac sudoPass : Str) : Call Unit Shell Bool := do
  let _ ← runSudo sudoPass ["rfcomm".toList, "release".toList, "all".toList]
  let returncode ← runSudo sudoPass ["rfcomm".toList, "bind".toList, "0".toList, elmMac]
  return returncode == 0

/-- `run_rfcomm_binding`. -/
def runRfcommBinding (elmMac sudoPass : Option Str) (s : Shell) : Bool × Shell :=
  match elmMac with
  | none => (false, s)
  | some mac =>
    if mac = [] then (false, s)
    else if isMac mac then
      match attemptBinding mac (sudoPass.getD []) s with
      | (.ok bound, s) => (bound, s)
      | (.error _, s) => (false, s)
    else (false, s)

end AutoDiag.Adapter

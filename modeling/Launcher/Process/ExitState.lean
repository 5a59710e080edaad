import Launcher.Process.Error
import Launcher.Process.ExitStatus
/-!
What a handle knows about the end of its process: the status once it is recorded, and what is to be
told until then. Each operation here is done under the handle's lock, in one step. -/
namespace Launcher

structure ExitState (κ : Type) where
  status : Option ExitStatus
  /-- Callbacks in the order of their registration. -/
  pending : List κ
  deriving DecidableEq, Repr

namespace ExitState

def initial : ExitState κ := ⟨none, []⟩

/-- Records the status and takes all callbacks out; only the first status counts. -/
def settle (s : ExitState κ) (status : ExitStatus) : ExitState κ × List κ :=
  match s.status with
  | some _ => (s, [])
  | none => (⟨some status, []⟩, s.pending)

/-- Keeps the callback until the exit, or gives the status that it is to be told at once. -/
def register (s : ExitState κ) (callback : κ) : ExitState κ × Option ExitStatus :=
  match s.status with
  | some status => (s, some status)
  | none => ({ s with pending := s.pending ++ [callback] }, none)

/-- What a thread that waits takes away from a look at the state: nothing before the exit. A state
without a status would count as an exit that nobody observed. -/
def awaited (s : ExitState κ) : Option ExitStatus :=
  if s.status.isNone then none else some (s.status.getD .unknown)

/-- Why a signal is not sent to the process with the number. -/
def refusal (s : ExitState κ) (pid : Nat) : Option ControlError :=
  ControlError.refusal pid s.status.isSome

/-- Whether the process runs. `probe` is how the operating system refuses to look for it, if it
does; an exit that is recorded needs no look. -/
def isRunning (s : ExitState κ) (pid : Nat) (probe : Option Errno) : Except ControlError Bool :=
  if s.status.isSome then .ok false
  else if !ControlError.isValidPid pid then .error (.invalidPid pid)
  else
    match probe with
    | none => .ok true
    | some cause => if cause = .noProcess then .ok false else .error (.os pid cause)

end ExitState
end Launcher

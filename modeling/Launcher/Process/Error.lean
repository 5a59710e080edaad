import Launcher.Host.OsError
/-!
What can go wrong when a process is started, and when one is signalled or asked for. -/
namespace Launcher

/-- Why a process was not started; there is no handle then. -/
inductive SpawnError where
  | os (binary : String) (cause : OsError)
  /-- The process was started, but nothing can wait for it. -/
  | reaper (pid : Nat) (cause : Errno)
  deriving DecidableEq, Repr

def SpawnError.message : SpawnError → String
  | .os binary cause => s!"Could not start '{binary}': {cause.message}"
  | .reaper pid cause =>
    s!"Started process {pid} but could not start its reaper: {cause.message}"

/-- Why a signal was not sent or a question about a process has no answer. -/
inductive ControlError where
  | alreadyExited (pid : Nat)
  | noSuchProcess (pid : Nat)
  | permissionDenied (pid : Nat)
  | invalidPid (pid : Nat)
  | os (pid : Nat) (cause : Errno)
  deriving DecidableEq, Repr

namespace ControlError

/-- Process numbers of the operating system are signed 32-bit words. -/
def isValidPid (pid : Nat) : Bool := pid < Nat.pow 2 31

/-- Why a signal is not sent at all: there is no such number, or the exit is recorded. -/
def refusal (pid : Nat) (recorded : Bool) : Option ControlError :=
  if !isValidPid pid then some (.invalidPid pid)
  else if recorded then some (.alreadyExited pid)
  else none

/-- Why the operating system did not take a signal. -/
def ofErrno (pid : Nat) (cause : Errno) : ControlError :=
  if cause = .noProcess then .noSuchProcess pid
  else if cause = .notPermitted then .permissionDenied pid
  else .os pid cause

def message : ControlError → String
  | .alreadyExited pid => s!"Process {pid} has already exited."
  | .noSuchProcess pid => s!"Process {pid} no longer exists."
  | .permissionDenied pid => s!"Not permitted to signal process {pid}."
  | .invalidPid pid => s!"Process id {pid} is out of range for this platform."
  | .os pid cause => s!"Could not control process {pid}: {cause.symbolic}"

end ControlError
end Launcher

import Launcher.Duration
import Launcher.Host.Stream
import Launcher.Process.Error
import Launcher.Resolution.Launch
import Launcher.Supervision
/-!
What launching needs of the operating system. The state `σ` is the world as discovery and processes
leave it; nothing is assumed about which starts succeed or when processes end. -/
namespace Launcher

/-- What keeps supervision from beginning. -/
inductive SetupError where
  | runtime (cause : OsError)
  | interruptHandler (cause : OsError)
  deriving DecidableEq, Repr

def SetupError.causes : SetupError → List String
  | .runtime cause => ["Could not start the supervision runtime", cause.message]
  | .interruptHandler cause => ["Could not install the Ctrl+C handler", cause.message]

structure Host (σ : Type) where
  /-- Starts a process; its number identifies it from then on. -/
  start : Launch → σ → Except SpawnError Nat × σ
  /-- Whether the exit of the process is recorded. -/
  isRecorded : Nat → σ → Bool
  /-- Sends the signal to the process with the number. -/
  kill : Nat → Signal → σ → Option Errno × σ
  write : Stream → String → σ → σ
  /-- Begins to listen for the exits of the processes, for interrupts and for the deadline. -/
  watch : List Nat → Option Duration → σ → Except SetupError Unit × σ
  /-- The next event that the supervision listens to, if there will be one. -/
  next : (s : Supervision) → σ → Option s.Awaited × σ

namespace Host

/-- Sends the signal unless the exit is recorded. -/
def signal (host : Host σ) (pid : Nat) (signal : Signal) (world : σ) :
    Except ControlError Unit × σ :=
  match ControlError.refusal pid (host.isRecorded pid world) with
  | some e => (.error e, world)
  | none =>
    match host.kill pid signal world with
    | (none, world) => (.ok (), world)
    | (some cause, world) => (.error (.ofErrno pid cause), world)

/-- One after another; a refusal does not keep the others from being signalled. -/
def signalAll (host : Host σ) (signal : Signal) : List Nat → σ → σ
  | [], world => world
  | pid :: rest, world => host.signalAll signal rest (host.signal pid signal world).2

end Host
end Launcher

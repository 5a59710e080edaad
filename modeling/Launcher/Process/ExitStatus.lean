import Launcher.Signal
/-!
How a process ended. -/
namespace Launcher

inductive ExitStatus where
  | code (n : Int)
  | signaled (n : Int)
  /-- Nobody observed the exit. -/
  | unknown
  deriving DecidableEq, Repr, Inhabited

namespace ExitStatus

def isSuccess (s : ExitStatus) : Bool := s = .code 0

def exitCode? : ExitStatus → Option Int
  | .code n => some n
  | _ => none

/-- Decodes a wait status word: the low seven bits are zero for a normal exit, whose code is the
next byte; they are the number of the fatal signal otherwise, and all ones for a process that
has not ended. -/
def ofWaitStatus (raw : UInt32) : ExitStatus :=
  let low := raw &&& 0x7f
  if low = 0 then .code ((raw >>> 8) &&& 0xff).toNat
  else if low = 0x7f then .unknown
  else .signaled low.toNat

def render : ExitStatus → String
  | .code n => s!"exit code {n}"
  | .signaled n =>
    match Signal.ofNumber? n with
    | some s => s!"terminated by {s.name}"
    | none => s!"terminated by signal {n}"
  | .unknown => "unknown exit status"

end ExitStatus
end Launcher

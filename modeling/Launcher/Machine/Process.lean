import Launcher.Machine.Streams
/-!
Processes as a machine keeps them, and what signals do to them. -/
namespace Launcher.Machine

structure Process where
  pid : Nat
  /-- The process that made it, unless it was launched. -/
  parent : Option Nat
  activity : Activity
  directory : Place
  streams : Streams
  /-- Where they are not the standard ones. -/
  dispositions : List (Signal × Disposition)
  /-- Caught signals that the process has not looked at. -/
  arrived : List Signal
  /-- When it goes on, in nanoseconds, unless it waits for another one. -/
  wakes : Nat
  stopped : Bool
  /-- Signals that wait for a stopped process to go on. -/
  held : List Signal
  status : Option ExitStatus

namespace Process

def isAlive (p : Process) : Bool := p.status.isNone

def disposition (p : Process) (s : Signal) : Disposition := (p.dispositions.lookup s).getD .standard

/-- Two signals do what they do whatever a process wants. -/
def dispose (p : Process) (s : Signal) (d : Disposition) : Process :=
  if s = .kill ∨ s = .stop then p
  else { p with dispositions := (s, d) :: p.dispositions.filter fun e => e.1 != s }

/-- A signal is looked at once, however often it comes before that. -/
def note (p : Process) (s : Signal) : Process :=
  if p.arrived.contains s then p else { p with arrived := p.arrived ++ [s] }

/-- What is left of a process that has ended. -/
def close (p : Process) (status : ExitStatus) : Process :=
  { p with
    activity := .ends 0, streams := [], arrived := [], held := [], stopped := false
    status := some status }

end Process

/-- What comes of a signal. -/
inductive Effect where
  | nothing
  | catches
  | stops
  | ends
  deriving DecidableEq, Repr

def ignoredByDefault : Signal → Bool
  | .chld | .cont | .urg | .winch => true
  | _ => false

def stopsByDefault : Signal → Bool
  | .stop | .tstp | .ttin | .ttou => true
  | _ => false

def Effect.of (s : Signal) : Disposition → Effect
  | .ignored => .nothing
  | .caught => .catches
  | .standard =>
    if ignoredByDefault s then .nothing else if stopsByDefault s then .stops else .ends

end Launcher.Machine

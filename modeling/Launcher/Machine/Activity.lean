import Launcher.Host.Files
import Launcher.Machine.Bytes
import Launcher.Process.ExitStatus
/-!
What a process does. A process is known by what it asks of its machine, and how it goes on after
each answer: between two questions nobody sees it, so a machine can leave it and go on with another
one there. `Doing` is the monad in which such processes are written. -/
namespace Launcher.Machine

/-- How a file is opened. -/
inductive Access where
  | reading
  /-- For writing, after its content is removed. -/
  | replacing
  /-- For writing at its end. -/
  | appending
  /-- For reading and writing at its beginning. -/
  | changing
  deriving DecidableEq, Repr

/-- How much is read at once. -/
inductive Portion where
  /-- At most so many bytes. -/
  | bytes (n : Nat)
  /-- To the end of a line, if that much is there. -/
  | line
  deriving DecidableEq, Repr

/-- What a signal does to a process. -/
inductive Disposition where
  | standard
  | ignored
  | caught
  deriving DecidableEq, Repr

/-- How a wait for a child ends. -/
inductive Waited where
  | ended (pid : Nat) (status : ExitStatus)
  /-- A caught signal came first. It has not been looked at. -/
  | interrupted (signal : Signal)
  /-- Time is up. -/
  | late
  /-- There is no child to wait for. -/
  | childless
  deriving DecidableEq, Repr

/-- What a process asks of the machine. Streams are known by the numbers that the process has for
them. -/
inductive Call where
  | write (stream : Nat) (bytes : Bytes)
  /-- Reads something, if only the end; waits until there is anything. -/
  | read (stream : Nat) (portion : Portion)
  | openFile (stream : Nat) (path : Bytes) (access : Access)
  /-- Opens a stream from which a text is read. -/
  | supply (stream : Nat) (bytes : Bytes)
  /-- Opens both ends of a pipe. -/
  | pipe (source sink : Nat)
  | duplicate (source target : Nat)
  | close (stream : Nat)
  /-- Closes all streams from a number on. -/
  | closeFrom (stream : Nat)
  | directory
  | enter (path : Bytes)
  | look (path : Bytes)
  /-- Puts a file in the place of another one, or takes it away. -/
  | store (path : Bytes) (file : Option Host.File)
  /-- Goes on as another program, if that can be started. -/
  | become (path argument0 : Bytes) (arguments : List Bytes) (environment : List (Bytes × Bytes))
  /-- Sends a signal, or asks whether one could be sent. -/
  | kill (pid : Nat) (signal : Option Signal)
  | dispose (signal : Signal) (disposition : Disposition)
  /-- Bounds how many streams a process may have. -/
  | limit (pid streams : Nat)
  /-- Takes the caught signals that have come. -/
  | arrived
  /-- Waits for the end of a child, at most for so many nanoseconds. Caught signals interrupt it
  where it says so. -/
  | await (interruptible : Bool) (limit : Option Nat)
  | pass (nanos : Nat)
  | ownPid
  | parentPid

/-- Whether a call was refused, and why. -/
abbrev Refusal := Option Errno

@[reducible] def Call.Answer : Call → Type
  | .write _ _ => Refusal
  | .read _ _ => Except Errno Bytes
  | .openFile _ _ _ => Refusal
  | .supply _ _ => Unit
  | .pipe _ _ => Unit
  | .duplicate _ _ => Refusal
  | .close _ => Unit
  | .closeFrom _ => Unit
  | .directory => Bytes
  | .enter _ => Refusal
  | .look _ => Except Errno Host.File
  | .store _ _ => Refusal
  | .become _ _ _ _ => Errno
  | .kill _ _ => Refusal
  | .dispose _ _ => Unit
  | .limit _ _ => Refusal
  | .arrived => List Signal
  | .await _ _ => Waited
  | .pass _ => Unit
  | .ownPid => Nat
  | .parentPid => Nat

/-- Streams from this number on are a program's own: they are closed when it becomes another one. -/
def firstOwnStream : Nat := 10

/-- What a process goes on with. -/
inductive Activity where
  /-- The end, with a status of which the lowest byte counts. -/
  | ends (status : Nat)
  | asks (call : Call) (next : call.Answer → Activity)
  /-- Makes a child that has everything that the process has; the process learns its number. -/
  | forks (child : Activity) (next : Nat → Activity)

instance : Inhabited Activity := ⟨.ends 0⟩

/-- A part of an activity that comes to a value, given how it goes on with that. -/
def Doing (α : Type) : Type := (α → Activity) → Activity

namespace Doing

instance : Monad Doing where
  pure a := fun next => next a
  bind x f := fun next => x fun a => f a next

def ask (call : Call) : Doing call.Answer := fun next => .asks call next

def fork (child : Activity) : Doing Nat := fun next => .forks child next

/-- Ends the process at once. -/
def stop (status : Nat) : Doing α := fun _ => .ends status

/-- The activity that ends with the status that it comes to. -/
def toActivity (x : Doing Nat) : Activity := x .ends

/-- Writes a text; nobody looks whether that went well. -/
def write (stream : Nat) (bytes : Bytes) : Doing Unit := do
  if !bytes.isEmpty then
    let _ ← ask (.write stream bytes)

/-- Reads everything that is left. -/
def readAll (stream : Nat) : Nat → Bytes → Doing (Except Errno Bytes)
  | 0, held => pure (.ok held)
  | fuel + 1, held => do
    match ← ask (.read stream (.bytes 65536)) with
    | .error e => pure (.error e)
    | .ok [] => pure (.ok held)
    | .ok bytes => readAll stream fuel (held ++ bytes)

/-- More steps than any program takes. -/
def patience : Nat := 10000000

end Doing
end Launcher.Machine

import Launcher.Process.ExitState
/-!
The handle of a started process, as one thread uses it. Callbacks may use the handle they are
registered with, so none of them is run while its lock is held: a thread that takes a lock it holds
already never goes on, and every operation here gives `none` in that case. -/
namespace Launcher

mutual

/-- A callback does what it is made to do, and may panic at the end. -/
inductive Callback where
  | mk (label : String) (panics : Bool) (actions : List CallbackAction)

/-- What a callback does with the handle. -/
inductive CallbackAction where
  | onExit (callback : Callback)
  | wait
  | tryStatus
  | signal (signal : Signal)

end

namespace Callback

def label : Callback → String
  | .mk label _ _ => label

def panics : Callback → Bool
  | .mk _ panics _ => panics

def actions : Callback → List CallbackAction
  | .mk _ _ actions => actions

/-- A callback that uses no handle. -/
def simple (label : String) (panics : Bool) : Callback := .mk label panics []

end Callback

/-- What a callback is told when it asks the handle. -/
inductive Answer where
  | waited (status : ExitStatus)
  | looked (status : Option ExitStatus)
  /-- Without a refusal the signal goes to the process. -/
  | signalled (refusal : Option ControlError)
  deriving DecidableEq, Repr

/-- What a thread does with a handle. -/
inductive Note where
  | calls (c : Callback)
  | began (c : Callback) (status : ExitStatus)
  | answered (answer : Answer)
  | ended (c : Callback) (panicked : Bool)
  /-- The call that registers the callback returned. -/
  | returned (c : Callback)

structure Entry where
  note : Note
  /-- The thread had the lock then. -/
  locked : Bool

/-- A callback that was run, and the status it was told. -/
structure Delivery where
  label : String
  panicked : Bool
  status : ExitStatus
  deriving DecidableEq, Repr

def Entry.delivery? (e : Entry) : Option Delivery :=
  match e.note with
  | .began c status => some ⟨c.label, c.panics, status⟩
  | _ => none

structure Handle where
  pid : Nat
  /-- The thread has the lock. -/
  locked : Bool
  exit : ExitState Callback
  history : List Entry

namespace Handle

def ofPid (pid : Nat) : Handle := ⟨pid, false, .initial, []⟩

def note (h : Handle) (n : Note) : Handle := { h with history := h.history ++ [⟨n, h.locked⟩] }

/-- The callbacks that were run, in order. -/
def delivered (h : Handle) : List Delivery := h.history.filterMap Entry.delivery?

def lock (h : Handle) : Option Handle := if h.locked then none else some { h with locked := true }

def unlock (h : Handle) : Handle := { h with locked := false }

/-- Does the operation under the lock. -/
def underLock (h : Handle) (f : ExitState Callback → ExitState Callback × α) :
    Option (Handle × α) :=
  match h.lock with
  | none => none
  | some h =>
    let (exit, a) := f h.exit
    some ({ h with exit }.unlock, a)

/-- What a look at the state under the lock gives. -/
def look (h : Handle) (f : ExitState Callback → α) : Option α :=
  (h.underLock fun s => (s, f s)).map (·.2)

/-- The recorded status. -/
def tryStatus (h : Handle) : Option (Option ExitStatus) := h.look (·.status)

/-- The recorded status. Before the exit there is no answer, and only the exit ends the wait. -/
def wait (h : Handle) : Option ExitStatus := (h.look (·.awaited)).join

/-- Why a signal is not sent, as far as the handle can tell; otherwise it goes to the process. The
number is looked at before the lock is taken. -/
def refusal (h : Handle) : Option (Option ControlError) :=
  if ControlError.isValidPid h.pid then h.look (·.refusal h.pid)
  else some (some (.invalidPid h.pid))

def isRunning (h : Handle) (probe : Option Errno) : Option (Except ControlError Bool) :=
  h.look (·.isRunning h.pid probe)

def answered (h : Handle) (answer : Option Answer) : Option Handle :=
  answer.map fun a => h.note (.answered a)

/-- Goes on behind a call that was made, whether it returned or panicked. -/
def caught (call : Option (Handle × Bool)) : Option Handle := call.map (·.1)

mutual

/-- Runs a callback; gives whether it panicked. -/
def invoke (status : ExitStatus) (c : Callback) (h : Handle) : Option (Handle × Bool) :=
  match c with
  | .mk label panics actions =>
    match perform actions (h.note (.began (.mk label panics actions) status)) with
    | none => none
    | some h => some (h.note (.ended (.mk label panics actions) panics), panics)

def performOne (a : CallbackAction) (h : Handle) : Option Handle :=
  match a with
  | .onExit c =>
    match (h.note (.calls c)).underLock fun s => s.register c with
    | none => none
    | some (h, none) => some (h.note (.returned c))
    | some (h, some status) => (caught (invoke status c h)).map (·.note (.returned c))
  | .wait => h.answered (h.wait.map .waited)
  | .tryStatus => h.answered (h.tryStatus.map .looked)
  | .signal _ => h.answered (h.refusal.map .signalled)

def perform (as : List CallbackAction) (h : Handle) : Option Handle :=
  match as with
  | [] => some h
  | a :: rest =>
    match performOne a h with
    | none => none
    | some h => perform rest h

end

/-- Runs a callback, whose panic ends with it. -/
def deliver (status : ExitStatus) (c : Callback) (h : Handle) : Option Handle :=
  caught (invoke status c h)

def deliverAll (status : ExitStatus) : List Callback → Handle → Option Handle
  | [], h => some h
  | c :: rest, h =>
    match deliver status c h with
    | none => none
    | some h => deliverAll status rest h

/-- Records the exit once and runs what was waiting for it. -/
def settle (h : Handle) (status : ExitStatus) : Option Handle :=
  match h.underLock fun s => s.settle status with
  | none => none
  | some (h, drained) => deliverAll status drained h

/-- Runs the callback now if the exit is recorded, and when it is otherwise. -/
def onExit (h : Handle) (c : Callback) : Option Handle := performOne (.onExit c) h

end Handle
end Launcher

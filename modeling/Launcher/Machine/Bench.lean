import Launcher.Machine.Basic
import Launcher.Process.Handle
/-!
A machine with named handles on its processes. Ends are recorded as soon as they happen. -/
namespace Launcher

structure Bench where
  machine : Machine
  handles : List (String × Handle)
  /-- Handles without a name, whose callbacks are still run. -/
  released : List Handle

namespace Bench

def ofMachine (m : Machine) : Bench := ⟨m, [], []⟩

def handle? (b : Bench) (name : String) : Option Handle := b.handles.lookup name

/-- Records the end of the process if it is over. -/
def record (m : Machine) (h : Handle) : Handle :=
  match h.tryStatus, m.status? h.pid with
  | some none, some status => (h.settle status).getD h
  | _, _ => h

/-- The bench with another state of the machine. -/
def withMachine (b : Bench) (machine : Machine) : Bench where
  machine := machine
  handles := b.handles.map fun e => (e.1, record machine e.2)
  released := b.released.map (record machine)

def put (b : Bench) (name : String) (h : Handle) : Bench :=
  { b with handles := (name, h) :: b.handles.filter fun e => e.1 != name }

/-- Takes the name from its handle. -/
def release (b : Bench) (name : String) : Bench :=
  { b with
    handles := b.handles.filter fun e => e.1 != name
    released := b.released ++ (b.handle? name).toList }

def spawn (b : Bench) (name : String) (l : Launch) : Except SpawnError Unit × Bench :=
  match b.machine.spawn l with
  | (.error cause, machine) => (.error (.os l.program.binary cause), { b with machine })
  | (.ok pid, machine) => (.ok (), ({ b with machine }.release name).put name (.ofPid pid))

/-- Waits for the end of the process. -/
def wait (b : Bench) (name : String) : Option ExitStatus × Bench :=
  match b.handle? name with
  | none => (none, b)
  | some h =>
    let b := b.withMachine (b.machine.awaitEnd h.pid)
    ((b.handle? name).bind Handle.wait, b)

/-- Waits so many times for the same end. -/
def waitTimes (b : Bench) (name : String) : Nat → List (Option ExitStatus) × Bench
  | 0 => ([], b)
  | n + 1 =>
    let (status, b) := b.wait name
    let (more, b) := b.waitTimes name n
    (status :: more, b)

def tryStatus (b : Bench) (name : String) : Option ExitStatus :=
  ((b.handle? name).bind Handle.tryStatus).join

def isRunning (b : Bench) (name : String) : Except ControlError Bool :=
  ((b.handle? name).bind fun h => h.isRunning (b.machine.refusal h.pid)).getD (.ok false)

def signal (b : Bench) (name : String) (s : Signal) : Option ControlError × Bench :=
  match b.handle? name with
  | none => (none, b)
  | some h =>
    match h.refusal.join with
    | some e => (some e, b)
    | none =>
      match b.machine.kill h.pid s with
      | (none, machine) => (none, b.withMachine machine)
      | (some cause, machine) => (some (.ofErrno h.pid cause), b.withMachine machine)

def onExit (b : Bench) (name : String) (c : Callback) : Bench :=
  match (b.handle? name).bind fun h => h.onExit c with
  | some h => b.put name h
  | none => b

def allHandles (b : Bench) : List Handle := b.handles.map (·.2) ++ b.released

/-- Callbacks that wait for an end and will not panic. -/
def pendingCount (b : Bench) : Nat :=
  b.allHandles.foldl (fun total h => total + h.exit.pending.countP fun c => !c.panics) 0

/-- Waits until no callback is pending, and then for a while; gives what was delivered. -/
def collect (b : Bench) (nanos : Nat) : List Delivery × Bench :=
  let awaited := (b.allHandles.filter fun h => !h.exit.pending.isEmpty).map Handle.pid
  let machine := (awaited.foldl Machine.awaitEnd b.machine).pass nanos
  let b := b.withMachine machine
  let delivered := b.allHandles.flatMap fun h => h.delivered.filter fun d => !d.panicked
  let forget (h : Handle) : Handle := { h with history := [] }
  (delivered.mergeSort fun a b => decide (a.label ≤ b.label),
    { b with
      handles := b.handles.map fun e => (e.1, forget e.2)
      released := b.released.map forget })

end Bench
end Launcher

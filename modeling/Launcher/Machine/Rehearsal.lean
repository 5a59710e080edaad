import Launcher.Host.Kernel
import Launcher.Machine.Basic
/-!
A launch rehearsed on a machine: the machine as a host, with a user who interrupts at given times.
-/
namespace Launcher

structure Rehearsal where
  machine : Machine
  /-- When the user interrupts, ascending. -/
  interrupts : List Nat
  /-- The processes that are supervised. -/
  watched : List Nat
  deadline : Option Nat
  /-- How many ends have been told. -/
  told : Nat

namespace Rehearsal

def ofMachine (m : Machine) (interrupts : List Nat) : Rehearsal := ⟨m, interrupts, [], none, 0⟩

/-- Points in time from delays, each of which begins at the one before. -/
def pointsInTime (start : Nat) : List Nat → List Nat
  | [] => []
  | d :: rest => (start + d) :: pointsInTime (start + d) rest

/-- The next end that has not been told. -/
def exit? (s : Supervision) (r : Rehearsal) : Option s.Awaited :=
  (r.machine.ended[r.told]?).bind fun pid =>
    (r.machine.status? pid).map fun status => ⟨.exited (r.watched.idxOf pid) status, rfl⟩

/-- When the next interrupt or the deadline comes, and the event that it is. -/
def alarm? (s : Supervision) (r : Rehearsal) : Option (Nat × s.Awaited) :=
  let at? (time : Option Nat) (e : Supervision.Event) : Option (Nat × s.Awaited) :=
    if h : s.listensTo e = true then time.map fun t => (t, ⟨e, h⟩) else none
  match at? r.interrupts.head? .interrupted, at? r.deadline .deadline with
  | some i, some d => if i.1 ≤ d.1 then some i else some d
  | some i, none => some i
  | none, d => d

/-- The rehearsal after an alarm has been taken. -/
def afterAlarm (r : Rehearsal) : Supervision.Event → Rehearsal
  | .interrupted => { r with interrupts := r.interrupts.drop 1 }
  | _ => r

/-- Lets time pass until something happens that the supervision listens to. -/
def next (s : Supervision) : Nat → Rehearsal → Option s.Awaited × Rehearsal
  | 0, r => (none, r)
  | fuel + 1, r =>
    match exit? s r, alarm? s r with
    | some event, _ => (some event, { r with told := r.told + 1 })
    | none, some (time, event) =>
      if time ≤ r.machine.clock then (some event, r.afterAlarm event.1)
      else
        match r.machine.step? (some time) with
        | some machine => next s fuel { r with machine }
        | none => next s fuel { r with machine := { r.machine with clock := time } }
    | none, none =>
      match r.machine.step? none with
      | some machine => next s fuel { r with machine }
      | none => (none, r)

/-- Streams that a launcher has when it begins to supervise: those that it was started with, and
those that tell it of events. -/
def neededStreams : Nat := 8

/-- The machine as an operating system. There is a thread for every process, and supervision begins
unless the launcher may not have enough streams. -/
def kernel : Kernel Rehearsal where
  spawn launch r :=
    let (result, machine) := r.machine.spawn launch
    (result, { r with machine := machine.pass Machine.launchNanos })
  attend _ r := (.ok (), r)
  collect pid r := { r with machine := r.machine.awaitEnd pid }
  isRecorded pid r := (r.machine.status? pid).isSome
  kill pid signal r :=
    let (refusal, machine) := r.machine.kill pid signal
    (refusal, { r with machine })
  write stream text r := { r with machine := r.machine.display stream text }
  watch pids timeout r :=
    if r.machine.streamLimit < neededStreams then (.error (.runtime (.errno .tooManyOpen)), r)
    else (.ok (), { r with
      watched := pids, deadline := timeout.map fun d => r.machine.clock + d.toNanos })
  next s r := next s Machine.patience r

/-- The machine as a host. -/
def host : Host Rehearsal := kernel.host

end Rehearsal
end Launcher

import Launcher.Process.ExitState
import Launcher.Signal
/-!
A handle that many threads use at once. Each section under the lock is one event, and so is each
delivery outside of it; the events of different threads come in any order. -/
namespace Launcher.Interleaving

/-- What the operating system says about the wait for a process. -/
inductive WaitOutcome where
  | observed (status : ExitStatus)
  | failed
  | panicked
  deriving DecidableEq, Repr

inductive Event (κ : Type) where
  /-- A thread records a status and takes the callbacks. -/
  | settle (status : ExitStatus)
  /-- A thread registers a callback. -/
  | onExit (callback : κ)
  /-- A thread that has callbacks to run runs the next one. -/
  | deliver (thread : Nat)
  /-- A waiting thread looks at the state, woken up or not. -/
  | wait
  | tryStatus
  /-- A thread asks whether the process runs; `probe` is the refusal of the operating system. -/
  | isRunning (probe : Option Errno)
  /-- A thread signals the process; `refusal` is that of the operating system, if it is reached. -/
  | signal (signal : Signal) (refusal : Option Errno)
  | release
  deriving DecidableEq, Repr

/-- What a caller got to know, or what was done to the process. -/
inductive Observation where
  | waited (status : ExitStatus)
  | stillWaiting
  | status (status : Option ExitStatus)
  | running (alive : Bool)
  /-- The operating system was told to send the signal. -/
  | sent (signal : Signal) (failure : Option ControlError)
  /-- There was no answer about the process, or nothing was sent to it. -/
  | refused (cause : ControlError)
  deriving DecidableEq, Repr

/-- A thread on its way out of `settle` or `onExit`: what it still has to run. -/
structure Courier (κ : Type) where
  status : ExitStatus
  callbacks : List κ
  deriving DecidableEq, Repr

structure State (κ : Type) where
  pid : Nat
  exit : ExitState κ
  couriers : List (Courier κ)
  /-- Callbacks that were run, with what they were told, in order. -/
  delivered : List (κ × ExitStatus)
  /-- Everything registered so far, in order. -/
  registered : List κ
  observations : List Observation
  deriving DecidableEq, Repr

namespace State

def initial (pid : Nat) : State κ := ⟨pid, .initial, [], [], [], []⟩

def observe (s : State κ) (o : Observation) : State κ :=
  { s with observations := s.observations ++ [o] }

/-- The couriers after one of them has run its next callback. -/
def advance : List (Courier κ) → Nat → Option ((κ × ExitStatus) × List (Courier κ))
  | [], _ => none
  | ⟨_, []⟩ :: _, 0 => none
  | ⟨status, c :: rest⟩ :: others, 0 => some ((c, status), ⟨status, rest⟩ :: others)
  | courier :: others, thread + 1 =>
    (advance others thread).map fun (delivery, others) => (delivery, courier :: others)

/-- The state after an event, if the event can happen. -/
def next (s : State κ) : Event κ → Option (State κ)
  | .settle status =>
    let (exit, drained) := s.exit.settle status
    some { s with exit, couriers := s.couriers ++ [⟨status, drained⟩] }
  | .onExit c =>
    let (exit, recorded) := s.exit.register c
    let couriers :=
      match recorded with
      | some status => s.couriers ++ [⟨status, [c]⟩]
      | none => s.couriers
    some { s with exit, couriers, registered := s.registered ++ [c] }
  | .deliver thread =>
    (advance s.couriers thread).map fun (delivery, couriers) =>
      { s with couriers, delivered := s.delivered ++ [delivery] }
  | .wait =>
    match s.exit.awaited with
    | some status => some (s.observe (.waited status))
    | none => some (s.observe .stillWaiting)
  | .tryStatus => some (s.observe (.status s.exit.status))
  | .isRunning probe =>
    match s.exit.isRunning s.pid probe with
    | .ok alive => some (s.observe (.running alive))
    | .error cause => some (s.observe (.refused cause))
  | .signal signal refusal =>
    match s.exit.refusal s.pid with
    | some cause => some (s.observe (.refused cause))
    | none => some (s.observe (.sent signal (refusal.map (ControlError.ofErrno s.pid))))
  | .release => some (s.observe (.status s.exit.status))

end State

inductive Step : State κ → Event κ → State κ → Prop where
  | of {s t : State κ} {e : Event κ} (h : s.next e = some t) : Step s e t

inductive Execution : State κ → State κ → Prop where
  | refl (s : State κ) : Execution s s
  | tail {s t u : State κ} {e : Event κ} : Execution s t → Step t e u → Execution s u

def Reachable (s : State κ) : Prop := Execution (State.initial s.pid) s

/-- Every thread that entered `settle` or `onExit` has returned. -/
def Quiet (s : State κ) : Prop := ∀ courier ∈ s.couriers, courier.callbacks = []

/-- What the thread that waits for the process records when the wait is over. A panic unwinds past
the recording, and a guard on its way records that nothing was observed. -/
def reap (s : ExitState κ) (outcome : WaitOutcome) : ExitState κ :=
  let recorded :=
    match outcome with
    | .observed status => (s.settle status).1
    | .failed => (s.settle .unknown).1
    | .panicked => s
  if outcome = .panicked then (recorded.settle .unknown).1 else recorded

end Launcher.Interleaving

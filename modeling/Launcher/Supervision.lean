import Launcher.Process.ExitStatus
/-!
Supervision of started processes: exits are counted and reported, the first interrupt is passed on
and the second one kills, and a deadline sends a chosen signal once. -/
namespace Launcher

structure Supervision where
  /-- Exits that have not been taken. -/
  remaining : Nat
  /-- Exits with another status than code zero. -/
  failed : Nat
  /-- Interrupts taken, two at most. -/
  interrupts : Nat
  timedOut : Bool
  deriving DecidableEq, Repr

namespace Supervision

inductive Event where
  /-- The process at the position has ended. -/
  | exited (index : Nat) (status : ExitStatus)
  | interrupted
  | deadline
  deriving DecidableEq, Repr

inductive Action where
  | report (index : Nat) (status : ExitStatus)
  | announceTimeout
  /-- To every process whose exit is not recorded. -/
  | signalAll (signal : Signal)
  deriving DecidableEq, Repr

inductive Verdict where
  | success
  | interrupted
  | unsuccessful (failed total : Nat)
  deriving DecidableEq, Repr

def start (total : Nat) : Supervision := ⟨total, 0, 0, false⟩

def isOver (s : Supervision) : Bool := s.remaining == 0

/-- Interrupts beyond the second one and deadlines beyond the first are not listened to. -/
def listensTo (s : Supervision) : Event → Bool
  | .exited _ _ => true
  | .interrupted => s.interrupts < 2
  | .deadline => !s.timedOut

/-- An event that the supervision listens to. -/
abbrev Awaited (s : Supervision) := { e : Event // s.listensTo e = true }

/-- How many events can come at most. -/
def outstanding (s : Supervision) : Nat :=
  s.remaining + (2 - s.interrupts) + (!s.timedOut).toNat

/-- Takes one event. -/
def step (chosen : Signal) (s : Supervision) : Event → Supervision × List Action
  | .exited index status =>
    ({ s with
        remaining := s.remaining - 1
        failed := if status.isSuccess then s.failed else s.failed + 1 },
      [.report index status])
  | .interrupted =>
    ({ s with interrupts := s.interrupts + 1 },
      [.signalAll (if s.interrupts = 0 then .int else .kill)])
  | .deadline => ({ s with timedOut := true }, [.announceTimeout, .signalAll chosen])

theorem outstanding_step_lt (chosen : Signal) (s : Supervision) (h : s.isOver = false)
    (e : s.Awaited) : (s.step chosen e.1).1.outstanding < s.outstanding := by
  obtain ⟨e, listens⟩ := e
  simp only [isOver, beq_eq_false_iff_ne] at h
  cases e with
  | exited index status => simp only [step, outstanding]; omega
  | interrupted =>
    simp only [listensTo, decide_eq_true_eq] at listens
    simp only [step, outstanding]; omega
  | deadline =>
    simp only [listensTo, Bool.not_eq_true'] at listens
    simp [step, outstanding, listens]

/-- Takes events until all processes have ended; an event nobody listens to is passed over. -/
def run (chosen : Signal) (s : Supervision) : List Event → Supervision × List Action
  | [] => (s, [])
  | e :: rest =>
    if s.isOver then (s, [])
    else if s.listensTo e then
      let (t, actions) := s.step chosen e
      let (u, later) := run chosen t rest
      (u, actions ++ later)
    else run chosen s rest

/-- An interrupt decides; otherwise every process must have succeeded. -/
def verdict (total : Nat) (s : Supervision) : Verdict :=
  if s.interrupts > 0 then .interrupted
  else if s.failed > 0 then .unsuccessful s.failed total
  else .success

end Supervision
end Launcher

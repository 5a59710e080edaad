import Launcher.Proofs.Host.Shadows
/-!
A round of signals. Every process has its turn, whatever becomes of the others, and is tried exactly
when its exit is not recorded by then. -/
namespace Launcher

namespace Host

variable (host : Host σ)

/-- The processes with the worlds in which their turns to be signalled come. -/
def turns (signal : Signal) : List Nat → σ → List (Nat × σ)
  | [], _ => []
  | pid :: rest, world => (pid, world) :: turns signal rest (host.signal pid signal world).2

theorem map_fst_turns (signal : Signal) (pids : List Nat) (world : σ) :
    (host.turns signal pids world).map (·.1) = pids := by
  induction pids generalizing world with
  | nil => rfl
  | cons pid rest ih => simp [turns, ih]

/-- The exit of the process is not recorded, and its number is one of the system. -/
def canSignal (turn : Nat × σ) : Bool :=
  ControlError.isValidPid turn.1 && !host.isRecorded turn.1 turn.2

theorem canSignal_eq (turn : Nat × σ) :
    host.canSignal turn =
      (ControlError.refusal turn.1 (host.isRecorded turn.1 turn.2)).isNone := by
  unfold canSignal ControlError.refusal
  cases ControlError.isValidPid turn.1 <;> cases host.isRecorded turn.1 turn.2 <;> rfl

/-- A host that notes every try to signal a process, with the world of that moment, and notes
nothing when it writes. -/
structure Notes {τ α : Type} (noting : Host τ) (host : Host σ) (view : τ → σ) (notes : τ → List α)
    (note : Nat → Signal → σ → α) : Prop extends noting.Shadows host view where
  tried : ∀ pid signal w,
    notes (noting.kill pid signal w).2 = notes w ++ [note pid signal (view w)]
  wrote : ∀ stream text w, notes (noting.write stream text w) = notes w

namespace Notes

variable {host : Host σ} {noting : Host τ} {view : τ → σ} {notes : τ → List α}
variable {note : Nat → Signal → σ → α} (h : noting.Notes host view notes note)
include h

theorem signal (pid : Nat) (signal : Signal) (w : τ) :
    notes (noting.signal pid signal w).2 =
      notes w ++ if host.canSignal (pid, view w) then [note pid signal (view w)] else [] := by
  -- Only a try is noted, and there is one exactly when nothing refuses the signal.
  have tried := h.tried pid signal w
  rw [canSignal_eq]
  unfold Host.signal
  rw [h.isRecorded]
  cases ControlError.refusal pid (host.isRecorded pid (view w)) with
  | some cause => simp
  | none =>
    cases sent : noting.kill pid signal w with
    | mk cause w' =>
      rw [sent] at tried
      cases cause with
      | none => exact tried
      | some cause => exact tried

/-- Every process has one turn, and is tried then if it can be. -/
theorem signalAll (signal : Signal) (pids : List Nat) (w : τ) :
    notes (noting.signalAll signal pids w) = notes w ++
      ((host.turns signal pids (view w)).filter host.canSignal).map fun turn =>
        note turn.1 signal turn.2 := by
  induction pids generalizing w with
  | nil => simp [turns, Host.signalAll]
  | cons pid rest ih =>
    have world := congrArg Prod.snd (h.toShadows.signal pid signal w)
    rw [Host.signalAll, ih, h.signal, turns, List.filter_cons, ← world]
    split <;> simp

end Notes

end Host
end Launcher

import Launcher.Command.Launching
/-!
How the world of a host moves while processes are stopped and supervised. The commands only write
and signal then, so whatever both of them keep is kept throughout. -/
namespace Launcher

/-- Writing and signalling lead from a world to worlds that it is related to. -/
structure Host.Moves (host : Host σ) (R : σ → σ → Prop) : Prop where
  refl : ∀ w, R w w
  trans : ∀ {u v w}, R u v → R v w → R u w
  write : ∀ stream text w, R w (host.write stream text w)
  kill : ∀ pid signal w, R w (host.kill pid signal w).2

namespace Host.Moves

open Command

variable {host : Host σ} {R : σ → σ → Prop} (h : host.Moves R)
include h

theorem signal (pid : Nat) (signal : Signal) (w : σ) : R w (host.signal pid signal w).2 := by
  have killed := h.kill pid signal w
  unfold Host.signal
  split
  · exact h.refl w
  · split
    next sent =>
      rw [sent] at killed
      exact killed
    next refused =>
      rw [refused] at killed
      exact killed

theorem signalAll (signal : Signal) (pids : List Nat) (w : σ) :
    R w (host.signalAll signal pids w) := by
  induction pids generalizing w with
  | nil => exact h.refl w
  | cons pid rest ih => exact h.trans (h.signal pid signal w) (ih _)

theorem announceStop (p : Text.Palette) (started : List Started) (w : σ) :
    R w (announceStop host p started w) := by
  unfold Command.announceStop
  split
  · exact h.refl w
  · exact h.write _ _ w

theorem stopAll (p : Text.Palette) (started : List Started) (w : σ) :
    R w (stopAll host p started w) :=
  h.trans (h.announceStop p started w) (h.signalAll .term _ _)

theorem perform (p : Text.Palette) (chosen : Signal) (started : List Started)
    (action : Supervision.Action) (w : σ) : R w (perform host p chosen started w action) := by
  cases action with
  | report index status =>
    simp only [Command.perform]
    split
    · exact h.write _ _ w
    · exact h.refl w
  | announceTimeout => exact h.write _ _ w
  | signalAll signal => exact h.signalAll signal _ w

theorem performAll (p : Text.Palette) (chosen : Signal) (started : List Started)
    (actions : List Supervision.Action) (w : σ) :
    R w (actions.foldl (Command.perform host p chosen started) w) := by
  induction actions generalizing w with
  | nil => exact h.refl w
  | cons action rest ih => exact h.trans (h.perform p chosen started action w) (ih _)

theorem superviseFrom (waits : ∀ s w, R w (host.next s w).2) (p : Text.Palette) (chosen : Signal)
    (started : List Started) (s : Supervision) (w : σ) :
    R w (superviseFrom host p chosen started s w).2 := by
  induction s, w using superviseFrom.induct host p chosen started with
  | case1 s w running w' silent =>
    have waited := waits s w
    rw [Command.superviseFrom, dif_pos running]
    rw [silent] at waited ⊢
    exact waited
  | case2 s w running event w' came _ ih =>
    have waited := waits s w
    rw [Command.superviseFrom, dif_pos running]
    rw [came] at waited ⊢
    exact h.trans (h.trans waited (h.performAll p chosen started _ w')) ih
  | case3 s w ended =>
    rw [Command.superviseFrom, dif_neg ended]
    exact h.refl w

theorem supervise (waits : ∀ s w, R w (host.next s w).2)
    (watches : ∀ pids timeout w, R w (host.watch pids timeout w).2) (p : Text.Palette)
    (timeout : Option Duration) (chosen : Signal) (started : List Started) (w : σ) :
    R w (supervise host p timeout chosen started w).2 := by
  have watched := watches (started.map (·.pid)) timeout w
  unfold Command.supervise
  split
  next failed =>
    rw [failed] at watched
    exact watched
  next ready =>
    rw [ready] at watched
    exact h.trans watched (h.superviseFrom waits p chosen started _ _)

end Host.Moves
end Launcher

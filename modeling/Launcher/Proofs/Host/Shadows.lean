import Launcher.Command.Launching
/-!
Hosts that keep something beside the world. When each operation does to the world what the host
does, a supervision on either of them is the same. -/
namespace Launcher

/-- The second host is the first one seen through `view`. -/
structure Host.Shadows (noting : Host τ) (host : Host σ) (view : τ → σ) : Prop where
  start : ∀ launch w, (noting.start launch w).map id view = host.start launch (view w)
  isRecorded : ∀ pid w, noting.isRecorded pid w = host.isRecorded pid (view w)
  kill : ∀ pid signal w, (noting.kill pid signal w).map id view = host.kill pid signal (view w)
  write : ∀ stream text w, view (noting.write stream text w) = host.write stream text (view w)
  watch : ∀ pids timeout w,
    (noting.watch pids timeout w).map id view = host.watch pids timeout (view w)
  next : ∀ s w, (noting.next s w).map id view = host.next s (view w)

namespace Host.Shadows

open Command

variable {noting : Host τ} {host : Host σ} {view : τ → σ} (h : noting.Shadows host view)
include h

theorem signal (pid : Nat) (signal : Signal) (w : τ) :
    (noting.signal pid signal w).map id view = host.signal pid signal (view w) := by
  have killed := h.kill pid signal w
  unfold Host.signal
  rw [← h.isRecorded]
  split
  · rfl
  · rw [← killed]
    cases noting.kill pid signal w with
    | mk cause w' => cases cause <;> rfl

theorem signalAll (signal : Signal) (pids : List Nat) (w : τ) :
    view (noting.signalAll signal pids w) = host.signalAll signal pids (view w) := by
  induction pids generalizing w with
  | nil => rfl
  | cons pid rest ih =>
    rw [Host.signalAll, Host.signalAll, ih, ← h.signal]
    rfl

theorem perform (p : Text.Palette) (chosen : Signal) (started : List Started)
    (action : Supervision.Action) (w : τ) :
    view (perform noting p chosen started w action) =
      perform host p chosen started (view w) action := by
  cases action with
  | report index status =>
    simp only [Command.perform]
    split
    · exact h.write _ _ w
    · rfl
  | announceTimeout => exact h.write _ _ w
  | signalAll signal => exact h.signalAll signal _ w

theorem performAll (p : Text.Palette) (chosen : Signal) (started : List Started)
    (actions : List Supervision.Action) (w : τ) :
    view (actions.foldl (Command.perform noting p chosen started) w) =
      actions.foldl (Command.perform host p chosen started) (view w) := by
  induction actions generalizing w with
  | nil => rfl
  | cons action rest ih => rw [List.foldl_cons, List.foldl_cons, ih, h.perform]

theorem superviseFrom (p : Text.Palette) (chosen : Signal) (started : List Started)
    (s : Supervision) (w : τ) :
    (superviseFrom noting p chosen started s w).map id view =
      superviseFrom host p chosen started s (view w) := by
  induction s, w using superviseFrom.induct noting p chosen started with
  | case1 s w running w' silent =>
    have waited := h.next s w
    rw [silent] at waited
    rw [Command.superviseFrom, Command.superviseFrom, dif_pos running, dif_pos running, silent,
      ← waited]
    rfl
  | case2 s w running event w' came _ ih =>
    have waited := h.next s w
    rw [came] at waited
    rw [Command.superviseFrom, dif_pos running, came]
    rw [Command.superviseFrom, dif_pos running, ← waited]
    rw [h.performAll] at ih
    exact ih
  | case3 s w ended =>
    rw [Command.superviseFrom, Command.superviseFrom, dif_neg ended, dif_neg ended]
    rfl

theorem supervise (p : Text.Palette) (timeout : Option Duration) (chosen : Signal)
    (started : List Started) (w : τ) :
    (supervise noting p timeout chosen started w).map id view =
      supervise host p timeout chosen started (view w) := by
  have watched := h.watch (started.map (·.pid)) timeout w
  unfold Command.supervise
  rw [← watched]
  cases noting.watch (started.map (·.pid)) timeout w with
  | mk result w' =>
    cases result with
    | error e => rfl
    | ok _ =>
      have run := h.superviseFrom p chosen started (.start started.length) w'
      simp only [Prod.map_apply, Prod.map_fst, Prod.map_snd, id_eq, ← run]

end Host.Shadows
end Launcher

import Launcher.Host.Kernel
import Launcher.Proofs.Host.Deeds
import Launcher.Proofs.Host.Shadows
import Launcher.Proofs.Supervision.Taking
/-!
What a launcher relies on when it stops or supervises processes: an exit that is recorded stays
recorded, and a supervision is told of the exit of each process once, after it is recorded. -/
namespace Launcher.Kernel

/-- The same operating system; what is done on it is written down in order. A process counts as
started as soon as it was made, whether it can be attended or not. -/
def accounted (k : Kernel σ) : Kernel (σ × List Deed) where
  spawn launch w :=
    match k.spawn launch w.1 with
    | (.ok pid, world) => (.ok pid, (world, w.2 ++ [.started launch pid]))
    | (.error cause, world) =>
      let failed := SpawnError.os launch.program.binary cause
      (.error cause, (world, w.2 ++ [.failedToStart launch failed]))
  attend pid w :=
    let (result, world) := k.attend pid w.1
    (result, (world, w.2))
  collect pid w := (k.collect pid w.1, w.2)
  isRecorded pid w := k.isRecorded pid w.1
  kill pid signal w :=
    let (refusal, world) := k.kill pid signal w.1
    (refusal, (world, w.2 ++ [.signalled pid signal (k.isRecorded pid w.1)]))
  write stream text w := (k.write stream text w.1, w.2 ++ [.wrote stream text])
  watch pids timeout w :=
    let (result, world) := k.watch pids timeout w.1
    (result, (world, w.2))
  next s w :=
    let (event, world) := k.next s w.1
    (event, (world, w.2))

/-- What a supervision knows of the world is a matter of two lists: the processes that it watches,
and the positions of those whose exits it was told of. -/
structure Ledger (σ : Type) where
  watched : σ → List Nat
  told : σ → List Nat

/-- No exit is forgotten, and nobody is told of one. -/
structure Rests (k : Kernel σ) (l : Ledger σ) (w w' : σ) : Prop where
  recorded : ∀ pid, k.isRecorded pid w = true → k.isRecorded pid w' = true
  watched : l.watched w' = l.watched w
  told : l.told w' = l.told w

/-- An event comes: an exit that is recorded and was not told before, or something else. -/
inductive Tells (k : Kernel σ) (l : Ledger σ) (w w' : σ) : Supervision.Event → Prop
  | exited {index status pid} : (l.watched w)[index]? = some pid → index ∉ l.told w →
      k.isRecorded pid w' = true → l.told w' = index :: l.told w →
      Tells k l w w' (.exited index status)
  | other {e} : e.exit? = none → l.told w' = l.told w → Tells k l w w' e

/-- How the operating system and the threads that attend processes behave. -/
structure Sound (k : Kernel σ) (l : Ledger σ) : Prop where
  /-- Numbers of processes are signed words. -/
  valid : ∀ {launch w pid w'}, k.spawn launch w = (.ok pid, w') → ControlError.isValidPid pid
  write : ∀ stream text w, k.Rests l w (k.write stream text w)
  kill : ∀ pid signal w, k.Rests l w (k.kill pid signal w).2
  watch : ∀ {pids timeout w w'}, k.watch pids timeout w = (.ok (), w') →
    l.watched w' = pids ∧ l.told w' = []
  /-- Waiting for an event forgets no exit. -/
  kept : ∀ s w pid, k.isRecorded pid w = true → k.isRecorded pid (k.next s w).2 = true
  watches : ∀ s w, l.watched (k.next s w).2 = l.watched w
  tells : ∀ {s w event w'}, k.next s w = (some event, w') → k.Tells l w w' event.1
  /-- There is something to come as long as there are exits that were not told. -/
  silent : ∀ {s w w'}, k.next s w = (none, w') →
    l.told w' = l.told w ∧ ∀ index < (l.watched w).length, index ∈ l.told w

variable {k : Kernel σ} {l : Ledger σ}

theorem accounted_shadows (k : Kernel σ) : k.accounted.host.Shadows k.host Prod.fst where
  start launch w := by
    change (k.accounted.start launch w).map id Prod.fst = k.start launch w.1
    rcases made : k.spawn launch w.1 with ⟨cause | pid, world⟩
    · simp [start, accounted, made]
    · rcases attended : k.attend pid world with ⟨cause | _, world'⟩
      · by_cases valid : ControlError.isValidPid pid = true
        · simp [start, discard, accounted, made, attended, valid]
        · simp [start, discard, accounted, made, attended, valid]
      · simp [start, accounted, made, attended]
  isRecorded _ _ := rfl
  kill _ _ _ := rfl
  write _ _ _ := rfl
  watch _ _ _ := rfl
  next _ _ := rfl

theorem accounted_moves (k : Kernel σ) : k.accounted.host.Moves AddsNoAttempt where
  refl := .refl
  trans := .trans
  write _ _ _ := .single rfl rfl
  kill _ _ _ := .single rfl rfl

theorem Rests.refl (w : σ) : k.Rests l w w := ⟨fun _ h => h, rfl, rfl⟩

theorem Rests.trans {u v w : σ} (h : k.Rests l u v) (h' : k.Rests l v w) : k.Rests l u w :=
  ⟨fun pid known => h'.recorded pid (h.recorded pid known), h'.watched.trans h.watched,
    h'.told.trans h.told⟩

theorem Sound.moves (sound : k.Sound l) : k.host.Moves (k.Rests l) where
  refl := .refl
  trans := .trans
  write := sound.write
  kill := sound.kill

theorem Sound.accounted_moves (sound : k.Sound l) :
    k.accounted.host.Moves fun w w' => k.Rests l w.1 w'.1 where
  refl w := .refl w.1
  trans := .trans
  write stream text w := sound.write stream text w.1
  kill pid signal w := sound.kill pid signal w.1

end Launcher.Kernel

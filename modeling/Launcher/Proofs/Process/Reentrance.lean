import Launcher.Process.Handle
import Launcher.Proofs.Except
import Mathlib.Data.List.Forall2
/-!
Callbacks that use the handle they are registered with. A thread that runs them has recorded the
exit and given the lock back before the first one starts, so a callback may do all that any other
thread may: what it registers is run on the spot, it need not wait, and its panic is its own. -/
namespace Launcher

/-- What the action asks the handle for, as it is told once the status is recorded. -/
def CallbackAction.answer? (pid : Nat) (status : ExitStatus) : CallbackAction → Option Answer
  | .onExit _ => none
  | .wait => some (.waited status)
  | .tryStatus => some (.looked (some status))
  | .signal _ => some (.signalled (ControlError.refusal pid true))

def CallbackAction.registered? : CallbackAction → Option Callback
  | .onExit c => some c
  | _ => none

mutual

/-- The callback with all that it registers, at any depth. -/
def Callback.family : Callback → List Callback
  | .mk label panics actions => .mk label panics actions :: Callback.families actions

def CallbackAction.family : CallbackAction → List Callback
  | .onExit c => c.family
  | .wait => []
  | .tryStatus => []
  | .signal _ => []

/-- What the actions register, each callback before what it registers itself. -/
def Callback.families : List CallbackAction → List Callback
  | [] => []
  | a :: rest => a.family ++ Callback.families rest

end

namespace Callback

def registers (c : Callback) : List Callback := c.actions.filterMap CallbackAction.registered?

/-- What the callback is told itself. -/
def answers (pid : Nat) (status : ExitStatus) (c : Callback) : List Answer :=
  c.actions.filterMap (CallbackAction.answer? pid status)

theorem family_eq (c : Callback) : c.family = c :: families c.actions := by
  cases c
  rfl

theorem families_cons_of_answer {pid : Nat} {status : ExitStatus} {a : CallbackAction}
    {answer : Answer} (asked : a.answer? pid status = some answer) (rest : List CallbackAction) :
    families (a :: rest) = families rest := by
  cases a <;> first | rfl | cases asked

theorem families_cons_onExit (c : Callback) (rest : List CallbackAction) :
    families (.onExit c :: rest) = c :: families c.actions ++ families rest := by
  rw [families, CallbackAction.family, family_eq]

end Callback

namespace Note

def began? : Note → Option (Callback × ExitStatus)
  | .began c status => some (c, status)
  | _ => none

def ended? : Note → Option (Callback × Bool)
  | .ended c panicked => some (c, panicked)
  | _ => none

def answer? : Note → Option Answer
  | .answered answer => some answer
  | _ => none

def returned? : Note → Option Callback
  | .returned c => some c
  | _ => none

end Note

/-- What is noted of actions that are done while the status is recorded, in this order. -/
inductive Told (pid : Nat) (status : ExitStatus) : List CallbackAction → List Note → Prop
  | nil : Told pid status [] []
  | onExit {c rest inside later} : Told pid status c.actions inside →
      Told pid status rest later →
      Told pid status (.onExit c :: rest)
        (.calls c :: .began c status :: inside ++ .ended c c.panics :: .returned c :: later)
  | ask {a rest answer later} : CallbackAction.answer? pid status a = some answer →
      Told pid status rest later → Told pid status (a :: rest) (.answered answer :: later)

/-- The callback is run and ends before the call that registers it returns, and so is everything
that it registers itself. -/
def RunsBeforeReturn (status : ExitStatus) (notes : List Note) : Prop :=
  ∀ c before after, notes = before ++ .returned c :: after → ∃ earlier inside,
    before = earlier ++ .calls c :: .began c status :: inside ++ [.ended c c.panics] ∧
      inside.filterMap Note.began? = (Callback.families c.actions).map (·, status)

section Told

variable {pid : Nat} {status : ExitStatus} {as : List CallbackAction} {notes ms : List Note}

theorem Told.began (h : Told pid status as notes) :
    notes.filterMap Note.began? = (Callback.families as).map (·, status) := by
  induction h with
  | nil => rfl
  | onExit _ _ inside later =>
    simp [Note.began?, List.filterMap_cons, Callback.families_cons_onExit, inside, later]
  | ask asked _ later =>
    rw [Callback.families_cons_of_answer asked, ← later]
    rfl

theorem Told.ended (h : Told pid status as notes) : (notes.filterMap Note.ended?).Perm
    ((Callback.families as).map fun c => (c, c.panics)) := by
  induction h with
  | nil => rfl
  | onExit _ _ inside later =>
    rw [Callback.families_cons_onExit, List.map_append]
    simp only [Note.ended?, List.filterMap_cons, List.filterMap_append,
      List.map_cons, List.cons_append]
    exact List.perm_middle.trans ((inside.append later).cons _)
  | ask asked _ later =>
    rw [Callback.families_cons_of_answer asked]
    exact later

/-- What belongs to a callback stands with it, before what belongs to those that it registers. -/
theorem perm_of_group {α : Type} (a b c d : List α) :
    (a ++ b ++ (c ++ d)).Perm (c ++ (a ++ (b ++ d))) := by
  have swapped : (a ++ b ++ c ++ d).Perm (c ++ (a ++ b) ++ d) :=
    List.perm_append_comm.append_right d
  simpa only [List.append_assoc] using swapped

theorem Told.answered (h : Told pid status as notes) : (notes.filterMap Note.answer?).Perm
    (as.filterMap (CallbackAction.answer? pid status) ++
      (Callback.families as).flatMap (Callback.answers pid status)) := by
  induction h with
  | nil => rfl
  | onExit _ _ inside later =>
    rw [Callback.families_cons_onExit]
    simp only [Note.answer?, List.filterMap_cons, List.filterMap_append,
      List.cons_append, CallbackAction.answer?, List.flatMap_append, List.flatMap_cons]
    exact (inside.append later).trans (perm_of_group _ _ _ _)
  | ask asked _ later =>
    rw [Callback.families_cons_of_answer asked]
    simpa [Note.answer?, List.filterMap_cons, asked] using later

theorem Told.returned (h : Told pid status as notes) : (notes.filterMap Note.returned?).Perm
    (as.filterMap CallbackAction.registered? ++
      (Callback.families as).flatMap Callback.registers) := by
  induction h with
  | nil => rfl
  | onExit _ _ inside later =>
    rw [Callback.families_cons_onExit]
    simp only [Note.returned?, List.filterMap_cons, List.filterMap_append,
      List.cons_append, CallbackAction.registered?, List.flatMap_append, List.flatMap_cons]
    exact List.perm_middle.trans (((inside.append later).trans (perm_of_group _ _ _ _)).cons _)
  | @ask a _ _ _ asked _ later =>
    rw [Callback.families_cons_of_answer asked]
    have registers : a.registered? = none := by
      cases a <;> first | rfl | cases asked
    simpa [Note.returned?, List.filterMap_cons, registers] using later

theorem runsBeforeReturn_append (left : RunsBeforeReturn status notes)
    (right : RunsBeforeReturn status ms) : RunsBeforeReturn status (notes ++ ms) := by
  intro c before after split
  rcases List.append_eq_append_iff.1 split with ⟨between, rfl, there⟩ | ⟨between, rfl, there⟩
  · obtain ⟨earlier, inside, rfl, run⟩ := right c between after there
    exact ⟨notes ++ earlier, inside, by simp, run⟩
  · cases between with
    | nil =>
      obtain ⟨earlier, inside, empty, run⟩ := right c [] after there.symm
      exact absurd empty (by simp)
    | cons first between =>
      obtain ⟨rfl, rfl⟩ := List.cons.inj there
      exact left c before between rfl

theorem runsBeforeReturn_of_none (none : ∀ n ∈ notes, n.returned? = none) :
    RunsBeforeReturn status notes := by
  rintro c before after rfl
  cases none (.returned c) (by simp)

theorem Told.runsBeforeReturn (h : Told pid status as notes) : RunsBeforeReturn status notes := by
  induction h with
  | nil => exact runsBeforeReturn_of_none nofun
  | @onExit c _ inside later told _ first second =>
    -- Only the last note is a return that is not one of those inside.
    have start : RunsBeforeReturn status [.calls c, .began c status] :=
      runsBeforeReturn_of_none (by simp [Note.returned?])
    have last : RunsBeforeReturn status [.ended c c.panics] :=
      runsBeforeReturn_of_none (by simp [Note.returned?])
    have run : RunsBeforeReturn status
        (.calls c :: .began c status :: inside ++ [.ended c c.panics]) :=
      runsBeforeReturn_append (runsBeforeReturn_append start first) last
    have call : RunsBeforeReturn status
        (.calls c :: .began c status :: inside ++ [.ended c c.panics] ++ [.returned c]) := by
      intro d before after split
      rcases concat_eq_split_iff.1 split with ⟨rfl, same, -⟩ | ⟨rest, within, -⟩
      · cases same
        exact ⟨[], inside, rfl, told.began⟩
      · exact run d before rest within
    simpa using runsBeforeReturn_append call second
  | @ask _ _ answer _ _ _ later =>
    have first : RunsBeforeReturn status [.answered answer] :=
      runsBeforeReturn_of_none (by simp [Note.returned?])
    exact runsBeforeReturn_append first later

end Told

namespace Handle

/-- The handle with notes that are made while its lock is free. -/
def write (h : Handle) (notes : List Note) : Handle :=
  { h with history := h.history ++ notes.map fun n => ⟨n, false⟩ }

variable {h : Handle} {status : ExitStatus} {c : Callback} {a : CallbackAction}

@[simp] theorem write_exit (h : Handle) (ns : List Note) : (h.write ns).exit = h.exit := rfl

theorem write_nil (h : Handle) : h.write [] = h := by
  simp [write]

@[simp] theorem write_write (h : Handle) (ns ms : List Note) :
    (h.write ns).write ms = h.write (ns ++ ms) := by
  simp [write]

theorem note_eq_write (free : h.locked = false) (n : Note) : h.note n = h.write [n] := by
  simp [note, write, free]

theorem write_note (free : h.locked = false) (ns : List Note) (n : Note) :
    (h.write ns).note n = h.write (ns ++ [n]) := by
  rw [note_eq_write (h := h.write ns) free, write_write]

theorem underLock_eq {α : Type} (free : h.locked = false)
    (f : ExitState Callback → ExitState Callback × α) :
    h.underLock f = some ({ h with exit := (f h.exit).1 }, (f h.exit).2) := by
  simp [underLock, lock, unlock, free]

theorem look_eq {α : Type} (free : h.locked = false) (f : ExitState Callback → α) :
    h.look f = some (f h.exit) := by
  rw [look, underLock_eq free]
  rfl

/-- A question is answered at once: nothing waits for an exit that is recorded. -/
theorem performOne_ask {answer : Answer} (settled : h.exit.status = some status)
    (free : h.locked = false) (asked : a.answer? h.pid status = some answer) :
    performOne a h = some (h.write [.answered answer]) := by
  have told : (h.note (.answered answer)) = h.write [.answered answer] := note_eq_write free _
  cases a with
  | onExit => cases asked
  | wait =>
    obtain rfl := Option.some.inj asked
    simp [performOne, wait, look_eq free, ExitState.awaited, settled, answered, told]
  | tryStatus =>
    obtain rfl := Option.some.inj asked
    simp [performOne, tryStatus, look_eq free, settled, answered, told]
  | signal =>
    obtain rfl := Option.some.inj asked
    have refused : h.refusal = some (ControlError.refusal h.pid true) := by
      rw [refusal, look_eq free, ExitState.refusal, settled]
      split
      · rfl
      next invalid => simp [ControlError.refusal, invalid]
    simp [performOne, refused, answered, told]

theorem underLock_register (settled : h.exit.status = some status) (free : h.locked = false) :
    h.underLock (fun s => s.register c) = some (h, some status) := by
  rw [underLock_eq free]
  simp [ExitState.register, settled]

mutual

/-- All that a callback does goes through, whatever it registers: no lock is in its way. -/
theorem invoke_told (c : Callback) (pid : Nat) (status : ExitStatus) : ∃ inside,
    Told pid status c.actions inside ∧ ∀ h : Handle, h.exit.status = some status →
      h.locked = false → h.pid = pid → invoke status c h =
        some (h.write (.began c status :: inside ++ [.ended c c.panics]), c.panics) :=
  match c with
  | .mk label panics actions => by
    obtain ⟨inside, told, performed⟩ := perform_told actions pid status
    refine ⟨inside, told, fun h settled free same => ?_⟩
    have inner := performed (h.write [.began (.mk label panics actions) status]) settled free same
    simp only [invoke, note_eq_write free, inner, write_write, write_note free]
    rfl

theorem performOne_told (a : CallbackAction) (pid : Nat) (status : ExitStatus) :
    ∃ notes, (∀ rest later, Told pid status rest later →
        Told pid status (a :: rest) (notes ++ later)) ∧
      ∀ h : Handle, h.exit.status = some status → h.locked = false → h.pid = pid →
        performOne a h = some (h.write notes) :=
  match a with
  | .onExit c => by
    obtain ⟨inside, told, invoked⟩ := invoke_told c pid status
    refine ⟨.calls c :: .began c status :: inside ++ [.ended c c.panics, .returned c],
      fun rest later behind => by simpa using Told.onExit told behind,
      fun h settled free same => ?_⟩
    have running := invoked (h.write [.calls c]) settled free same
    simp only [performOne, note_eq_write free, underLock_register (h := h.write [.calls c])
      settled free, running, caught, Option.map_some, write_write, write_note free]
    simp
  | .wait => ⟨_, fun _ _ => .ask rfl, fun _ settled free _ => performOne_ask settled free rfl⟩
  | .tryStatus => ⟨_, fun _ _ => .ask rfl, fun _ settled free _ => performOne_ask settled free rfl⟩
  | .signal s => ⟨[.answered (.signalled (ControlError.refusal pid true))],
      fun _ _ => .ask rfl, fun h settled free same => by
        subst same
        exact performOne_ask settled free rfl⟩

theorem perform_told (as : List CallbackAction) (pid : Nat) (status : ExitStatus) : ∃ notes,
    Told pid status as notes ∧ ∀ h : Handle, h.exit.status = some status → h.locked = false →
      h.pid = pid → perform as h = some (h.write notes) :=
  match as with
  | [] => ⟨[], .nil, fun h _ _ _ => by rw [perform, write_nil]⟩
  | a :: rest => by
    obtain ⟨first, extends_first, performed⟩ := performOne_told a pid status
    obtain ⟨later, told, followed⟩ := perform_told rest pid status
    refine ⟨first ++ later, extends_first rest later told, fun h settled free same => ?_⟩
    simp only [perform, performed h settled free same]
    rw [followed (h.write first) settled free same, write_write]

end

end Handle

/-- What is noted of a callback from its start to its end. -/
structure IsRun (pid : Nat) (status : ExitStatus) (c : Callback) (notes : List Note) : Prop where
  framed : ∃ inside, notes = .began c status :: inside ++ [.ended c c.panics]
  /-- Each callback of the family is run once, with the status. -/
  began : notes.filterMap Note.began? = c.family.map (·, status)
  /-- Each of them comes to its end. -/
  ended : (notes.filterMap Note.ended?).Perm (c.family.map fun d => (d, d.panics))
  /-- Each question is answered. -/
  answered : (notes.filterMap Note.answer?).Perm (c.family.flatMap (Callback.answers pid status))
  /-- Each call that registers a callback returns, and not before that callback was run. -/
  returned : (notes.filterMap Note.returned?).Perm (c.family.flatMap Callback.registers)
  run_before_return : RunsBeforeReturn status notes

theorem Told.isRun {pid : Nat} {status : ExitStatus} {c : Callback} {inside : List Note}
    (told : Told pid status c.actions inside) :
    IsRun pid status c (.began c status :: inside ++ [.ended c c.panics]) where
  framed := ⟨inside, rfl⟩
  began := by
    simp [Note.began?, List.filterMap_cons, told.began, Callback.family_eq]
  ended := by
    have last : ((inside.filterMap Note.ended?) ++ [(c, c.panics)]).Perm
        ((c, c.panics) :: (Callback.families c.actions).map fun d => (d, d.panics)) :=
      (List.perm_append_singleton _ _).trans (told.ended.cons _)
    simpa [Note.ended?, List.filterMap_cons, Callback.family_eq] using last
  answered := by
    simpa [Note.answer?, List.filterMap_cons, Callback.family_eq, Callback.answers] using
      told.answered
  returned := by
    simpa [Note.returned?, List.filterMap_cons, Callback.family_eq, Callback.registers] using
      told.returned
  run_before_return := by
    have start : RunsBeforeReturn status [.began c status] :=
      runsBeforeReturn_of_none (by simp [Note.returned?])
    have last : RunsBeforeReturn status [.ended c c.panics] :=
      runsBeforeReturn_of_none (by simp [Note.returned?])
    exact runsBeforeReturn_append (runsBeforeReturn_append start told.runsBeforeReturn) last

namespace Handle

variable {h : Handle} {status : ExitStatus}

theorem deliver_runs (settled : h.exit.status = some status) (free : h.locked = false)
    (c : Callback) : ∃ run, IsRun h.pid status c run ∧ deliver status c h = some (h.write run) := by
  obtain ⟨inside, told, invoked⟩ := invoke_told c h.pid status
  refine ⟨_, told.isRun, ?_⟩
  rw [deliver, invoked h settled free rfl]
  rfl

theorem deliverAll_runs (settled : h.exit.status = some status) (free : h.locked = false)
    (cs : List Callback) : ∃ runs, List.Forall₂ (IsRun h.pid status) cs runs ∧
      deliverAll status cs h = some (h.write runs.flatten) := by
  induction cs generalizing h with
  | nil => exact ⟨[], .nil, by rw [deliverAll, List.flatten_nil, write_nil]⟩
  | cons c rest ih =>
    obtain ⟨run, first, delivered⟩ := deliver_runs settled free c
    obtain ⟨runs, others, followed⟩ := ih (h := h.write run) settled free
    refine ⟨run :: runs, .cons first others, ?_⟩
    simp only [deliverAll, delivered, followed, write_write, List.flatten_cons]

theorem settle_runs (running : h.exit.status = none) (free : h.locked = false)
    (status : ExitStatus) : ∃ runs, List.Forall₂ (IsRun h.pid status) h.exit.pending runs ∧
      h.settle status = some ({ h with exit := ⟨some status, []⟩ }.write runs.flatten) := by
  obtain ⟨runs, all, delivered⟩ :=
    deliverAll_runs (h := { h with exit := ⟨some status, []⟩ }) rfl free h.exit.pending
  refine ⟨runs, all, ?_⟩
  simp only [settle, underLock_eq free, ExitState.settle, running, delivered]

theorem settle_again (settled : h.exit.status = some status) (free : h.locked = false)
    (other : ExitStatus) : h.settle other = some h := by
  simp only [settle, underLock_eq free, ExitState.settle, settled, deliverAll]

theorem onExit_runs (settled : h.exit.status = some status) (free : h.locked = false)
    (c : Callback) : ∃ run, IsRun h.pid status c run ∧
      h.onExit c = some (h.write (.calls c :: run ++ [.returned c])) := by
  obtain ⟨run, is_run, delivered⟩ := deliver_runs (h := h.write [.calls c]) settled free c
  refine ⟨run, is_run, ?_⟩
  rw [deliver] at delivered
  simp only [onExit, performOne, note_eq_write free, underLock_register (h := h.write [.calls c])
    settled free, delivered, Option.map_some, write_write, write_note free]
  rfl

theorem onExit_waits (running : h.exit.status = none) (free : h.locked = false) (c : Callback) :
    h.onExit c = some ({ h with exit := ⟨none, h.exit.pending ++ [c]⟩ }.write
      [.calls c, .returned c]) := by
  have kept : (h.write [.calls c]).underLock (fun s => s.register c) =
      some ({ h with exit := ⟨none, h.exit.pending ++ [c]⟩ }.write [.calls c], none) := by
    rw [underLock_eq (h := h.write [.calls c]) free]
    simp only [ExitState.register, write_exit, running]
    rfl
  simp only [onExit, performOne, note_eq_write free, kept]
  rw [write_note (h := { h with exit := ⟨none, h.exit.pending ++ [c]⟩ }) free]
  rfl

theorem registerAll_waits (running : h.exit.status = none) (free : h.locked = false)
    (cs : List Callback) : cs.foldlM onExit h =
      some ({ h with exit := ⟨none, h.exit.pending ++ cs⟩ }.write
        (cs.flatMap fun c => [.calls c, .returned c])) := by
  induction cs generalizing h with
  | nil =>
    obtain ⟨pid, locked, ⟨_, pending⟩, history⟩ := h
    obtain rfl : _ = none := running
    simp [write]
  | cons c rest ih =>
    rw [List.foldlM_cons, onExit_waits running free]
    have others := ih (h := { h with exit := ⟨none, h.exit.pending ++ [c]⟩ }.write
      [.calls c, .returned c]) rfl free
    refine others.trans ?_
    simp [write]

theorem registerAll_runs (settled : h.exit.status = some status) (free : h.locked = false)
    (cs : List Callback) : ∃ notes, cs.foldlM onExit h = some (h.write notes) ∧
      notes.filterMap Note.began? = (cs.flatMap Callback.family).map (·, status) := by
  induction cs generalizing h with
  | nil => exact ⟨[], by rw [write_nil]; rfl, rfl⟩
  | cons c rest ih =>
    obtain ⟨run, is_run, called⟩ := onExit_runs settled free c
    obtain ⟨notes, followed, began⟩ := ih (h := h.write (.calls c :: run ++ [.returned c]))
      settled free
    refine ⟨.calls c :: run ++ [.returned c] ++ notes, ?_, ?_⟩
    · rw [List.foldlM_cons, called]
      exact followed.trans (by rw [write_write])
    · simp [Note.began?, List.filterMap_cons, is_run.began, began]

theorem began_of_runs {pid : Nat} {cs : List Callback} {runs : List (List Note)}
    (all : List.Forall₂ (IsRun pid status) cs runs) :
    runs.flatten.filterMap Note.began? = (cs.flatMap Callback.family).map (·, status) := by
  induction all with
  | nil => rfl
  | cons first _ others => simp [first.began, others]

theorem began_of_waiting (cs : List Callback) :
    (cs.flatMap fun c => [Note.calls c, .returned c]).filterMap Note.began? = [] := by
  simp [List.filterMap_flatMap, Note.began?, List.filterMap_cons]

/-- Callbacks that are registered before and after the exit: each of them is run once, and so is all
that they register. -/
theorem settle_between (running : h.exit.status = none) (free : h.locked = false)
    (before after : List Callback) (status : ExitStatus) : ∃ notes,
      ((before.foldlM onExit h).bind fun h => (h.settle status).bind fun h =>
        after.foldlM onExit h) = some ({ h with exit := ⟨some status, []⟩ }.write notes) ∧
      notes.filterMap Note.began? =
        ((h.exit.pending ++ before ++ after).flatMap Callback.family).map (·, status) := by
  let waiting := before.flatMap fun c => [Note.calls c, .returned c]
  let exited : Handle := { h with exit := ⟨some status, []⟩ }
  obtain ⟨runs, all, settled⟩ := settle_runs (h := { h with
    exit := ⟨none, h.exit.pending ++ before⟩ }.write waiting) rfl free status
  obtain ⟨later, registered, began⟩ :=
    registerAll_runs (h := exited.write (waiting ++ runs.flatten)) rfl free after
  refine ⟨waiting ++ runs.flatten ++ later, ?_, ?_⟩
  · have settled' : ({ h with exit := ⟨none, h.exit.pending ++ before⟩ }.write waiting).settle
        status = some (exited.write (waiting ++ runs.flatten)) := by
      rw [settled, ← write_write]
      rfl
    rw [registerAll_waits running free, Option.bind_some, settled', Option.bind_some, registered,
      write_write]
  · have first : runs.flatten.filterMap Note.began? =
        ((h.exit.pending ++ before).flatMap Callback.family).map (·, status) := began_of_runs all
    simp [waiting, began_of_waiting, first, began]

end Handle

/-- Under the lock there is only the record. Whether the callbacks waited for the exit or come when
it is recorded already, each is run with the lock free and comes to its end, with all that it
registers itself. What a callback asks for is answered, and its panic ends with it. -/
theorem delivery_is_isolated (h : Handle) (free : h.locked = false) :
    (h.exit.status = none →
      (∀ status, ∃ runs, List.Forall₂ (IsRun h.pid status) h.exit.pending runs ∧
        h.settle status = some ({ h with exit := ⟨some status, []⟩ }.write runs.flatten)) ∧
      ∀ before after status, ∃ notes,
        ((before.foldlM Handle.onExit h).bind fun h => (h.settle status).bind fun h =>
          after.foldlM Handle.onExit h) =
            some ({ h with exit := ⟨some status, []⟩ }.write notes) ∧
        notes.filterMap Note.began? =
          ((h.exit.pending ++ before ++ after).flatMap Callback.family).map (·, status)) ∧
    ∀ status, h.exit.status = some status →
      (∀ c, ∃ run, IsRun h.pid status c run ∧
        h.onExit c = some (h.write (.calls c :: run ++ [.returned c]))) ∧
      ∀ other, h.settle other = some h :=
  ⟨fun running => ⟨h.settle_runs running free, h.settle_between running free⟩,
    fun _ settled => ⟨h.onExit_runs settled free, h.settle_again settled free⟩⟩

namespace Sample

def inner : Callback := .mk "inner" true [.tryStatus, .signal .term]

/-- Waits, registers another callback and waits again, and panics at the end. -/
def nosy : Callback := .mk "nosy" true [.wait, .onExit inner, .wait]

/-- A handle whose process has just ended. -/
def watched : Handle := ⟨7, false, ⟨none, [nosy, .simple "plain" false]⟩, []⟩

end Sample

theorem delivery_is_isolated_sample :
    Sample.watched.locked = false ∧ Sample.watched.exit.status = none ∧
      (∃ notes, ((Sample.watched.settle (.code 0)).bind fun h => h.onExit Sample.nosy) =
          some ({ Sample.watched with exit := ⟨some (.code 0), []⟩ }.write notes) ∧
        notes.filterMap Note.began? = [(Sample.nosy, .code 0), (Sample.inner, .code 0),
          (.simple "plain" false, .code 0), (Sample.nosy, .code 0), (Sample.inner, .code 0)]) ∧
      (Sample.watched.settle (.code 0)).map Handle.delivered =
        some [⟨"nosy", true, .code 0⟩, ⟨"inner", true, .code 0⟩, ⟨"plain", false, .code 0⟩] := by
  have free : Sample.watched.locked = false := rfl
  have running : Sample.watched.exit.status = none := rfl
  obtain ⟨notes, whole, began⟩ :=
    ((delivery_is_isolated Sample.watched free).1 running).2 [] [Sample.nosy] (.code 0)
  refine ⟨free, running, ⟨notes, ?_, began⟩, rfl⟩
  simpa using whole

end Launcher

import Launcher.Supervision
import Mathlib.Data.List.Perm.Subperm
/-!
The events that a supervision takes, in any order. Each counter tells a number of events taken, so
when every process reports its end once, all have been taken when no exit remains, and the verdict
is about the statuses and not about the order. -/
namespace Launcher.Supervision

/-- The exit that an event reports: the position of the process and its status. -/
def Event.exit? : Event → Option (Nat × ExitStatus)
  | .exited index status => some (index, status)
  | .interrupted | .deadline => none

/-- The exits among the events, in the order in which they were taken. -/
def exits (es : List Event) : List (Nat × ExitStatus) := es.filterMap Event.exit?

/-- One report from each process. -/
def reports (statuses : List ExitStatus) : List (Nat × ExitStatus) :=
  statuses.zipIdx.map fun e => (e.2, e.1)

/-- The positions of the processes whose exit was not taken. -/
def untaken (total : Nat) (es : List Event) : List Nat :=
  (List.range total).filter fun index => index ∉ (exits es).map (·.1)

/-- The events are taken one after another: each of them is listened to, and exits remain before
it. -/
inductive Takes (chosen : Signal) : Supervision → List Event → Supervision → Prop where
  | none (s) : Takes chosen s [] s
  | next {s e es t} : s.isOver = false → s.listensTo e = true →
      Takes chosen (s.step chosen e).1 es t → Takes chosen s (e :: es) t

/-- What the statuses of all processes come to. -/
def judged (statuses : List ExitStatus) (interrupted : Bool) : Verdict :=
  if interrupted then .interrupted
  else if statuses.countP (fun status => status ≠ .code 0) = 0 then .success
  else .unsuccessful (statuses.countP fun status => status ≠ .code 0) statuses.length

/-- The counters after some events, from those before. -/
structure Counted (s : Supervision) (es : List Event) (t : Supervision) : Prop where
  remaining : t.remaining + (exits es).length = s.remaining
  failed : t.failed = s.failed + (exits es).countP fun exit => exit.2 ≠ .code 0
  interrupts : t.interrupts = s.interrupts + es.count .interrupted

section Exits

@[simp] theorem exits_nil : exits [] = [] := rfl

@[simp] theorem exits_cons (e : Event) (es : List Event) :
    exits (e :: es) = e.exit?.toList ++ exits es := by
  cases e <;> rfl

@[simp] theorem exits_append (before after : List Event) :
    exits (before ++ after) = exits before ++ exits after := List.filterMap_append

@[simp] theorem length_reports (statuses : List ExitStatus) :
    (reports statuses).length = statuses.length := by
  simp [reports]

theorem map_fst_reports (statuses : List ExitStatus) :
    (reports statuses).map (·.1) = List.range statuses.length := by
  simp [reports, Function.comp_def, List.zipIdx_map_snd, List.range_eq_range']

theorem map_snd_reports (statuses : List ExitStatus) :
    (reports statuses).map (·.2) = statuses := by
  simp [reports, Function.comp_def, List.zipIdx_map_fst]

/-- No exit is taken twice, so the others are those whose positions have not come up. -/
theorem length_untaken {statuses : List ExitStatus} {es : List Event}
    (once : (exits es).Subperm (reports statuses)) :
    (untaken statuses.length es).length + (exits es).length = statuses.length := by
  obtain ⟨taken, same, sub⟩ := once
  obtain ⟨others, split⟩ := sub.exists_perm_append
  have positions : (List.range statuses.length).Perm
      ((exits es).map (·.1) ++ others.map (·.1)) := by
    rw [← map_fst_reports, ← List.map_append]
    exact (split.trans (same.append_right others)).map _
  have distinct : ((exits es).map (·.1) ++ others.map (·.1)).Nodup :=
    positions.nodup_iff.1 List.nodup_range
  have apart := (List.nodup_append.1 distinct).2.2
  let pending : Nat → Bool := fun index => index ∉ (exits es).map (·.1)
  have gone : ((exits es).map (·.1)).filter pending = [] :=
    List.filter_eq_nil_iff.2 fun index hi => by simpa [pending] using hi
  have stay : (others.map (·.1)).filter pending = others.map (·.1) :=
    List.filter_eq_self.2 fun index hi => decide_eq_true fun hm => apart index hm index hi rfl
  have left : (untaken statuses.length es).Perm (others.map (·.1)) := by
    have kept := positions.filter pending
    rwa [List.filter_append, gone, List.nil_append, stay] at kept
  have total := split.length_eq
  simp only [length_reports, List.length_append, same.length_eq] at total
  rw [left.length_eq, List.length_map]
  omega

end Exits

section Taking

variable {chosen : Signal} {s t u : Supervision} {e : Event} {es later : List Event}
variable {statuses : List ExitStatus}

theorem isSuccess_eq (status : ExitStatus) :
    status.isSuccess = !decide (status ≠ .code 0) := by
  simp [ExitStatus.isSuccess]

theorem Counted.append (h : Counted s es t) (k : Counted t later u) :
    Counted s (es ++ later) u := by
  obtain ⟨hr, hf, hi⟩ := h
  obtain ⟨kr, kf, ki⟩ := k
  constructor
  · rw [exits_append, List.length_append]
    omega
  · rw [exits_append, List.countP_append]
    omega
  · rw [List.count_append]
    omega

/-- An exit is taken only while exits remain, so the counter does not pass zero. -/
theorem step_counted (chosen : Signal) (running : s.isOver = false) (e : Event) :
    Counted s [e] (s.step chosen e).1 := by
  have positive : s.remaining ≠ 0 := by simpa [isOver] using running
  cases e with
  | exited index status =>
    refine ⟨?_, ?_, rfl⟩
    · simp only [step, exits_cons, exits_nil, Event.exit?, Option.toList_some, List.append_nil,
        List.length_singleton]
      omega
    · by_cases zero : status = .code 0
      · simp [step, isSuccess_eq, Event.exit?, zero]
      · simp [step, isSuccess_eq, Event.exit?, zero]
  | interrupted => exact ⟨rfl, rfl, rfl⟩
  | deadline => exact ⟨rfl, rfl, rfl⟩

theorem takes_counted (h : Takes chosen s es t) : Counted s es t := by
  induction h with
  | none s => exact ⟨rfl, rfl, rfl⟩
  | next running _ _ ih => exact (step_counted _ running _).append ih

theorem Takes.concat (h : Takes chosen s es t) (running : t.isOver = false)
    (listens : t.listensTo e = true) : Takes chosen s (es ++ [e]) (t.step chosen e).1 := by
  induction h with
  | none s => exact .next running listens (.none _)
  | next first heard _ ih => exact .next first heard (ih running listens)

theorem takes_interrupts_le (h : Takes chosen s es t) (few : s.interrupts ≤ 2) :
    t.interrupts ≤ 2 := by
  induction h with
  | none s => exact few
  | @next s e es t _ listens _ ih =>
    refine ih ?_
    cases e with
    | exited index status => exact few
    | interrupted => exact of_decide_eq_true listens
    | deadline => exact few

/-- A deadline is taken once, and then nobody listens to it. -/
theorem takes_deadlines (h : Takes chosen s es t) :
    t.timedOut.toNat = s.timedOut.toNat + es.count .deadline := by
  induction h with
  | none s => rfl
  | @next s e es t _ listens _ ih =>
    rw [ih]
    cases e with
    | exited index status => rfl
    | interrupted => rfl
    | deadline =>
      have before : s.timedOut = false := by simpa [listensTo] using listens
      simp only [step, before, List.count_cons_self, Bool.toNat_true, Bool.toNat_false]
      omega

variable (h : Takes chosen (start statuses.length) es t)
include h

theorem remaining_eq_untaken (once : (exits es).Subperm (reports statuses)) :
    t.remaining = (untaken statuses.length es).length := by
  have counted : t.remaining + (exits es).length = statuses.length := (takes_counted h).remaining
  have left := length_untaken once
  omega

/-- The supervision is over when every process has been taken once. -/
theorem isOver_iff_all_taken (once : (exits es).Subperm (reports statuses)) :
    t.isOver = true ↔ (exits es).Perm (reports statuses) := by
  have counted : t.remaining + (exits es).length = statuses.length := (takes_counted h).remaining
  have finished : t.isOver = true ↔ t.remaining = 0 := by simp [isOver]
  rw [finished]
  constructor
  · intro none
    refine once.perm_of_length_le ?_
    rw [length_reports]
    omega
  · intro all
    have lengths := all.length_eq
    rw [length_reports] at lengths
    omega

theorem verdict_eq_judged (all : (exits es).Perm (reports statuses)) :
    t.verdict statuses.length = judged statuses (decide (.interrupted ∈ es)) := by
  obtain ⟨-, failed, interrupts⟩ := takes_counted h
  have failures : t.failed = statuses.countP fun status => status ≠ .code 0 := by
    rw [failed, all.countP_eq]
    conv_rhs => rw [← map_snd_reports statuses, List.countP_map]
    simp [start, Function.comp_def]
  have interruptions : t.interrupts = es.count .interrupted := by
    simpa [start] using interrupts
  unfold verdict judged
  rw [failures, interruptions]
  by_cases hi : Event.interrupted ∈ es
  · simp [hi, List.count_pos_iff.2 hi]
  · simp only [List.count_eq_zero.2 hi, hi, gt_iff_lt, Nat.lt_irrefl, if_false, decide_false]
    by_cases none : (statuses.countP fun status => status ≠ .code 0) = 0
    · rw [if_neg (by omega), if_pos none]
      rfl
    · rw [if_pos (by omega), if_neg none]
      rfl

end Taking
end Launcher.Supervision

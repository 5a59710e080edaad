import Launcher.Proofs.Process.Callbacks
/-!
The recorded exit over all interleavings of one handle's threads. The first status that a thread
records stays. It is what every caller is told, and from then on nothing is sent to the process. -/
namespace Launcher.Interleaving

variable {κ : Type} {s t : State κ} {e : Event κ} {es : List (Event κ)}

/-- The status that a thread wants to record. -/
def Event.settles? : Event κ → Option ExitStatus
  | .settle status => some status
  | _ => none

/-- The status that a caller was told. -/
def Observation.told? : Observation → Option ExitStatus
  | .waited recorded => some recorded
  | .status recorded => recorded
  | _ => none

/-- How a call is answered once the exit is recorded: no signal is sent, whatever the operating
system would say, and the process does not run. -/
def answerAfterExit (pid : Nat) (status : ExitStatus) : Event κ → Option Observation
  | .settle _ | .onExit _ | .deliver _ => none
  | .wait => some (.waited status)
  | .tryStatus | .release => some (.status (some status))
  | .isRunning _ => some (.running false)
  | .signal _ _ =>
    some (.refused (if ControlError.isValidPid pid then .alreadyExited pid else .invalidPid pid))

/-- What is known of the exit when the wait for the process is over. -/
def WaitOutcome.told : WaitOutcome → ExitStatus
  | .observed status => status
  | .failed | .panicked => .unknown

/-- The fallback of a waiting thread is never seen. -/
@[simp] theorem awaited_eq_status (x : ExitState κ) : x.awaited = x.status := by
  unfold ExitState.awaited
  cases x.status <;> rfl

theorem settle_status (x : ExitState κ) (status : ExitStatus) :
    (x.settle status).1.status = some (x.status.getD status) := by
  unfold ExitState.settle
  cases h : x.status with
  | none => rfl
  | some old => exact h

/-- However the wait ends, the thread that waits for the process records one status. -/
theorem reap_eq_settle (x : ExitState κ) (outcome : WaitOutcome) :
    reap x outcome = (x.settle outcome.told).1 := by
  cases outcome <;> rfl

theorem next_pid (h : s.next e = some t) : t.pid = s.pid := by
  cases step_change (.of h) <;> rfl

theorem settles?_of_isQuery (h : e.isQuery) : e.settles? = none := by
  cases e with
  | settle => cases h
  | _ => rfl

theorem next_status (h : s.next e = some t) :
    t.exit.status = s.exit.status.or e.settles? := by
  cases step_change (.of h) with
  | recorded status hs => simp [hs, Event.settles?]
  | repeated status old hs => simp [hs]
  | kept c hs => simp [hs, Event.settles?]
  | handed c status hs => simp [hs]
  | delivered before after status c rest hsplit => simp [Event.settles?]
  | observed _ o query => simp [State.observe, settles?_of_isQuery query]

/-- A caller is told the recorded status or none. -/
theorem next_told (h : s.next e = some t) :
    ∃ new : Option Observation, t.observations = s.observations ++ new.toList ∧
      ∀ o ∈ new, ∀ status, o.told? = some status → s.exit.status = some status := by
  cases e with
  | settle status =>
    obtain rfl := Option.some.inj h
    exact ⟨none, by simp, nofun⟩
  | onExit c =>
    obtain rfl := Option.some.inj h
    exact ⟨none, by simp, nofun⟩
  | deliver thread =>
    obtain ⟨_, _, rfl⟩ := Option.map_eq_some_iff.1 h
    exact ⟨none, by simp, nofun⟩
  | wait =>
    simp only [State.next, awaited_eq_status] at h
    cases hs : s.exit.status with
    | none =>
      obtain rfl : s.observe .stillWaiting = t := by simpa [hs] using h
      exact ⟨some .stillWaiting, rfl, by simp [Observation.told?]⟩
    | some recorded =>
      obtain rfl : s.observe (.waited recorded) = t := by simpa [hs] using h
      exact ⟨some (.waited recorded), rfl, by simp [Observation.told?]⟩
  | tryStatus =>
    obtain rfl := Option.some.inj h
    exact ⟨some (.status s.exit.status), rfl, by simp [Observation.told?]⟩
  | isRunning probe =>
    simp only [State.next] at h
    split at h
    next alive _ =>
      obtain rfl := Option.some.inj h
      exact ⟨some (.running alive), rfl, by simp [Observation.told?]⟩
    next cause _ =>
      obtain rfl := Option.some.inj h
      exact ⟨some (.refused cause), rfl, by simp [Observation.told?]⟩
  | signal signal refusal =>
    simp only [State.next] at h
    split at h
    next cause _ =>
      obtain rfl := Option.some.inj h
      exact ⟨some (.refused cause), rfl, by simp [Observation.told?]⟩
    next =>
      obtain rfl := Option.some.inj h
      exact ⟨some (.sent signal _), rfl, by simp [Observation.told?]⟩
  | release =>
    obtain rfl := Option.some.inj h
    exact ⟨some (.status s.exit.status), rfl, by simp [Observation.told?]⟩

theorem next_after_exit {status : ExitStatus} (hs : s.exit.status = some status)
    (h : s.next e = some t) :
    t.observations = s.observations ++ (answerAfterExit s.pid status e).toList := by
  cases e with
  | settle | onExit =>
    obtain rfl := Option.some.inj h
    simp [answerAfterExit]
  | deliver thread =>
    obtain ⟨_, _, rfl⟩ := Option.map_eq_some_iff.1 h
    simp [answerAfterExit]
  | wait =>
    obtain rfl : s.observe (.waited status) = t := by simpa [State.next, hs] using h
    rfl
  | tryStatus | release =>
    obtain rfl := Option.some.inj h
    simp [State.observe, answerAfterExit, hs]
  | isRunning probe =>
    obtain rfl : s.observe (.running false) = t := by
      simpa [State.next, ExitState.isRunning, hs] using h
    rfl
  | signal signal refusal =>
    simp only [State.next, ExitState.refusal, ControlError.refusal, hs] at h
    cases hp : ControlError.isValidPid s.pid with
    | false =>
      obtain rfl : s.observe (.refused (.invalidPid s.pid)) = t := by simpa [hp] using h
      simp [State.observe, answerAfterExit, hp]
    | true =>
      obtain rfl : s.observe (.refused (.alreadyExited s.pid)) = t := by simpa [hp] using h
      simp [State.observe, answerAfterExit, hp]

section Run

theorem runTrace_append {later : List (Event κ)} (h : runTrace s (es ++ later) = some t) :
    ∃ middle, runTrace s es = some middle ∧ runTrace middle later = some t := by
  induction es generalizing s with
  | nil => exact ⟨s, rfl, h⟩
  | cons e es ih =>
    obtain ⟨next, hnext, hrest⟩ := Option.bind_eq_some_iff.1 h
    obtain ⟨middle, hmiddle, hlater⟩ := ih hrest
    exact ⟨middle, by simp [runTrace, hnext, hmiddle], hlater⟩

theorem runTrace_pid (h : runTrace s es = some t) : t.pid = s.pid := by
  induction es generalizing s with
  | nil =>
    obtain rfl := Option.some.inj h
    rfl
  | cons e es ih =>
    obtain ⟨next, hnext, hrest⟩ := Option.bind_eq_some_iff.1 h
    exact (ih hrest).trans (next_pid hnext)

/-- The first of all statuses to be recorded is the recorded one. -/
theorem runTrace_status (h : runTrace s es = some t) :
    t.exit.status = s.exit.status.or (es.filterMap Event.settles?).head? := by
  induction es generalizing s with
  | nil =>
    obtain rfl := Option.some.inj h
    simp
  | cons e es ih =>
    obtain ⟨next, hnext, hrest⟩ := Option.bind_eq_some_iff.1 h
    rw [ih hrest, next_status hnext, Option.or_assoc]
    cases hsettles : e.settles? with
    | none => simp [hsettles]
    | some status => simp [hsettles]

theorem runTrace_told (h : runTrace s es = some t)
    (told : ∀ o ∈ s.observations, ∀ status, o.told? = some status →
      s.exit.status = some status) :
    ∀ o ∈ t.observations, ∀ status, o.told? = some status → t.exit.status = some status := by
  induction es generalizing s with
  | nil =>
    obtain rfl := Option.some.inj h
    exact told
  | cons e es ih =>
    obtain ⟨next, hnext, hrest⟩ := Option.bind_eq_some_iff.1 h
    obtain ⟨new, hnew, hold⟩ := next_told hnext
    refine ih hrest fun o ho status ht => ?_
    have recorded : s.exit.status = some status := by
      rw [hnew] at ho
      rcases List.mem_append.1 ho with ho | ho
      · exact told o ho status ht
      · exact hold o (Option.mem_toList.1 ho) status ht
    simp [next_status hnext, recorded]

theorem runTrace_after_exit {status : ExitStatus} (hs : s.exit.status = some status)
    (h : runTrace s es = some t) :
    t.observations = s.observations ++ es.filterMap (answerAfterExit s.pid status) := by
  induction es generalizing s with
  | nil =>
    obtain rfl := Option.some.inj h
    simp
  | cons e es ih =>
    obtain ⟨next, hnext, hrest⟩ := Option.bind_eq_some_iff.1 h
    have still : next.exit.status = some status := by simp [next_status hnext, hs]
    rw [ih still hrest, next_pid hnext, next_after_exit hs hnext, List.append_assoc]
    cases hanswer : answerAfterExit s.pid status e <;> simp [hanswer]

end Run

/-- The first status that is recorded in a run stays, and whoever is told a status is told that one.
Behind the exit every call is answered from what is recorded, so that no signal is sent. However the
wait for the process ends, the thread that waits for it leaves a status behind. -/
theorem first_status_stays (pid : Nat) (es : List (Event κ))
    (h : runTrace (State.initial pid) es = some s) :
    s.exit.status = (es.filterMap Event.settles?).head? ∧
    (∀ o ∈ s.observations, ∀ status, o.told? = some status → s.exit.status = some status) ∧
    (∀ before after t status, es = before ++ after →
      runTrace (State.initial pid) before = some t → t.exit.status = some status →
        s.exit.status = some status ∧
        s.observations = t.observations ++ after.filterMap (answerAfterExit pid status)) ∧
    (∀ outcome, ∃ t, s.next (.settle outcome.told) = some t ∧ t.exit = reap s.exit outcome ∧
      t.exit.status = some (s.exit.status.getD outcome.told)) := by
  refine ⟨?_, runTrace_told h (by simp [State.initial]), ?_, ?_⟩
  · simpa [State.initial, ExitState.initial] using runTrace_status h
  · intro before after t status hsplit hbefore hs
    rw [hsplit] at h
    obtain ⟨middle, hmiddle, hafter⟩ := runTrace_append h
    obtain rfl : middle = t := Option.some.inj (hmiddle.symm.trans hbefore)
    have stays : s.exit.status = some status := by simp [runTrace_status hafter, hs]
    have same : middle.pid = pid := runTrace_pid hbefore
    have answers := runTrace_after_exit hs hafter
    rw [same] at answers
    exact ⟨stays, answers⟩
  · intro outcome
    refine ⟨_, rfl, (reap_eq_settle s.exit outcome).symm, ?_⟩
    exact settle_status s.exit outcome.told

namespace Sample

/-- Two callers look before the exit. Behind it somebody records another status, and a signal, which
the operating system would take, is refused. -/
def calls : List (Event Nat) :=
  [.tryStatus, .wait, .settle (.code 3), .settle .unknown, .wait, .isRunning none,
    .signal .term none, .release]

def answers : List Observation :=
  [.status none, .stillWaiting, .waited (.code 3), .running false, .refused (.alreadyExited 7),
    .status (some (.code 3))]

def called : State Nat :=
  { State.initial 7 with
    exit := ⟨some (.code 3), []⟩
    couriers := [⟨.code 3, []⟩, ⟨.unknown, []⟩]
    observations := answers }

end Sample

theorem first_status_stays_sample :
    runTrace (State.initial 7) Sample.calls = some Sample.called ∧
    Sample.called.exit.status = some (.code 3) ∧
    (∀ o ∈ Sample.answers, ∀ status, o.told? = some status → some (.code 3) = some status) ∧
    Sample.answers = [.status none, .stillWaiting] ++
      (Sample.calls.drop 3).filterMap (answerAfterExit 7 (.code 3)) :=
  have stays := first_status_stays 7 Sample.calls (s := Sample.called) rfl
  ⟨rfl, stays.1, stays.2.1,
    (stays.2.2.1 (Sample.calls.take 3) (Sample.calls.drop 3)
      { State.initial 7 with
        exit := ⟨some (.code 3), []⟩
        couriers := [⟨.code 3, []⟩]
        observations := [.status none, .stillWaiting] } (.code 3) rfl rfl rfl).2⟩

end Launcher.Interleaving

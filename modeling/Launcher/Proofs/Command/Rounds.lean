import Launcher.Proofs.Host.Turns
import Launcher.Proofs.Supervision.Taking
/-!
The signals of a supervision. They come in rounds, each on account of one event: the first
interrupt, the second one and the deadline have a round each, and an exit has none. Since events are
taken only while exits remain, no round comes after the last exit. -/
namespace Launcher

/-- What is written down of a supervision, with the world of that moment. -/
inductive Occurrence (σ : Type) where
  | took (event : Supervision.Event) (world : σ)
  | tried (pid : Nat) (signal : Signal) (world : σ)
  deriving DecidableEq, Repr

/-- The same host; the events that are taken from it and the processes that it is to signal are
written down in order. -/
def Host.chronicled (host : Host σ) : Host (σ × List (Occurrence σ)) where
  start launch w :=
    let (answer, world) := host.start launch w.1
    (answer, (world, w.2))
  isRecorded pid w := host.isRecorded pid w.1
  kill pid signal w :=
    let (refusal, world) := host.kill pid signal w.1
    (refusal, (world, w.2 ++ [.tried pid signal w.1]))
  write stream text w := (host.write stream text w.1, w.2)
  watch pids timeout w :=
    let (result, world) := host.watch pids timeout w.1
    (result, (world, w.2))
  next s w :=
    match host.next s w.1 with
    | (none, world) => (none, (world, w.2))
    | (some event, world) => (some event, (world, w.2 ++ [.took event.1 world]))

theorem Host.chronicled_notes (host : Host σ) :
    host.chronicled.Notes host Prod.fst Prod.snd Occurrence.tried where
  start _ _ := rfl
  isRecorded _ _ := rfl
  kill _ _ _ := rfl
  write _ _ _ := rfl
  watch _ _ _ := rfl
  next s w := by
    simp only [chronicled]
    cases host.next s w.1 with
    | mk event world => cases event <;> rfl
  tried _ _ _ := rfl
  wrote _ _ _ := rfl

theorem Host.chronicled_next_none (host : Host σ) {s : Supervision}
    {w w' : σ × List (Occurrence σ)} (silent : host.chronicled.next s w = (none, w')) :
    w'.2 = w.2 := by
  simp only [chronicled] at silent
  split at silent
  · exact (congrArg (·.2.2) silent).symm
  · cases silent

theorem Host.chronicled_next_some (host : Host σ) {s : Supervision} {event : s.Awaited}
    {w w' : σ × List (Occurrence σ)} (came : host.chronicled.next s w = (some event, w')) :
    ∃ world, w' = (world, w.2 ++ [.took event.1 world]) := by
  simp only [chronicled] at came
  split at came
  · cases came
  next given world _ =>
    obtain ⟨same, rfl⟩ := Prod.mk.inj came
    obtain rfl := Option.some.inj same
    exact ⟨world, rfl⟩

namespace Command

open Supervision

/-- An event that was taken, the world that it left, and the tries to signal processes before the
next event. -/
structure Moment (σ : Type) where
  event : Event
  world : σ
  tries : List (Occurrence σ)

def Moment.occurrences (m : Moment σ) : List (Occurrence σ) := .took m.event m.world :: m.tries

/-- Every process has one turn, in the order in which they were started, and is tried then unless
its exit is recorded. -/
structure IsRound (host : Host σ) (signal : Signal) (started : List Started) (world : σ)
    (tries : List (Occurrence σ)) : Prop where
  each_once : (host.turns signal (started.map (·.pid)) world).map (·.1) = started.map (·.pid)
  tries_eq : tries = ((host.turns signal (started.map (·.pid)) world).filter host.canSignal).map
    fun turn => .tried turn.1 signal turn.2

/-- The tries of a moment, given the events before it. -/
inductive Moment.Follows (host : Host σ) (p : Text.Palette) (chosen : Signal)
    (started : List Started) (before : List Event) (m : Moment σ) : Prop
  | exited {index status} : m.event = .exited index status → m.tries = [] →
      Follows host p chosen started before m
  | first_interrupt : m.event = .interrupted → .interrupted ∉ before →
      IsRound host .int started m.world m.tries → Follows host p chosen started before m
  | second_interrupt : m.event = .interrupted → before.count .interrupted = 1 →
      IsRound host .kill started m.world m.tries → Follows host p chosen started before m
  | deadline : m.event = .deadline → .deadline ∉ before →
      IsRound host chosen started (perform host p chosen started m.world .announceTimeout)
        m.tries → Follows host p chosen started before m

section Rounds

variable (host : Host σ) (p : Text.Palette) (chosen : Signal) (started : List Started)

theorem perform_signalAll (signal : Signal) (w : σ × List (Occurrence σ)) :
    ∃ tries, (perform host.chronicled p chosen started w (.signalAll signal)).2 = w.2 ++ tries ∧
      IsRound host signal started w.1 tries :=
  ⟨_, host.chronicled_notes.signalAll signal _ w, host.map_fst_turns _ _ _, rfl⟩

/-- What one event leads to, after those that have led to the counters. -/
theorem step_follows {s : Supervision} {e : Event} {before : List Event}
    (taken : Takes chosen (start started.length) before s) (listens : s.listensTo e = true)
    (w : σ × List (Occurrence σ)) :
    ∃ tries,
      ((s.step chosen e).2.foldl (perform host.chronicled p chosen started) w).2 = w.2 ++ tries ∧
      Moment.Follows host p chosen started before ⟨e, w.1, tries⟩ := by
  have interrupts : s.interrupts = before.count .interrupted := by
    simpa [start] using (takes_counted taken).interrupts
  have deadlines : s.timedOut.toNat = before.count .deadline := by
    simpa [start] using takes_deadlines taken
  cases e with
  | exited index status =>
    refine ⟨[], ?_, .exited rfl rfl⟩
    simp only [step, List.foldl_cons, List.foldl_nil, perform, List.append_nil]
    cases started[index]? <;> rfl
  | interrupted =>
    have few : s.interrupts < 2 := of_decide_eq_true listens
    obtain ⟨tries, noted, round⟩ := perform_signalAll host p chosen started
      (if s.interrupts = 0 then .int else .kill) w
    refine ⟨tries, noted, ?_⟩
    by_cases first : s.interrupts = 0
    · rw [if_pos first] at round
      exact .first_interrupt rfl (List.count_eq_zero.1 (interrupts.symm.trans first)) round
    · rw [if_neg first] at round
      exact .second_interrupt rfl (by omega) round
  | deadline =>
    have waiting : s.timedOut = false := by simpa [listensTo] using listens
    have none_before : before.count .deadline = 0 := by simpa [waiting] using deadlines.symm
    obtain ⟨tries, noted, round⟩ := perform_signalAll host p chosen started chosen
      (perform host.chronicled p chosen started w .announceTimeout)
    exact ⟨tries, noted, .deadline rfl (List.count_eq_zero.1 none_before) round⟩

/-- Each moment comes while exits remain, and its tries follow from its event and those before. -/
def Proceeds (before : List Event) (moments : List (Moment σ)) : Prop :=
  ∀ earlier m later, moments = earlier ++ m :: later →
    (exits (before ++ earlier.map (·.event))).length < started.length ∧
      m.Follows host p chosen started (before ++ earlier.map (·.event))

theorem proceeds_nil (before : List Event) :
    Proceeds host p chosen started before ([] : List (Moment σ)) := by
  intro earlier m later split
  cases earlier <;> cases split

variable {host p chosen started}

theorem Proceeds.cons {before : List Event} {m : Moment σ} {moments : List (Moment σ)}
    (here : (exits before).length < started.length)
    (follows : m.Follows host p chosen started before)
    (later : Proceeds host p chosen started (before ++ [m.event]) moments) :
    Proceeds host p chosen started before (m :: moments) := by
  intro earlier m' after split
  cases earlier with
  | nil =>
    obtain ⟨rfl, -⟩ := List.cons.inj split
    rw [List.map_nil, List.append_nil]
    exact ⟨here, follows⟩
  | cons first rest =>
    obtain ⟨rfl, inside⟩ := List.cons.inj split
    have inside := later rest m' after inside
    rwa [List.append_assoc, List.singleton_append, ← List.map_cons] at inside

variable (host p chosen started)

theorem superviseFrom_proceeds (s : Supervision) (w : σ × List (Occurrence σ)) :
    ∀ before, Takes chosen (start started.length) before s →
      let run := superviseFrom host.chronicled p chosen started s w
      ∃ moments : List (Moment σ), run.2.2 = w.2 ++ moments.flatMap Moment.occurrences ∧
        Takes chosen s (moments.map (·.event)) run.1 ∧
        Proceeds host p chosen started before moments := by
  -- The events before are carried along, since they say what the counters stand at.
  induction s, w using superviseFrom.induct host.chronicled p chosen started with
  | case1 s w running w' silent =>
    intro before taken
    rw [superviseFrom, dif_pos running, silent]
    have unchanged := host.chronicled_next_none silent
    exact ⟨[], by simpa using unchanged, .none s, proceeds_nil host p chosen started before⟩
  | case2 s w running event w' came _ ih =>
    intro before taken
    rw [superviseFrom, dif_pos running, came]
    obtain ⟨world, rfl⟩ := host.chronicled_next_some came
    obtain ⟨tries, noted, follows⟩ := step_follows host p chosen started taken event.2
      (world, w.2 ++ [.took event.1 world])
    obtain ⟨moments, written, takes, proceeds⟩ := ih _ (taken.concat running event.2)
    refine ⟨⟨event.1, world, tries⟩ :: moments, ?_, .next running event.2 takes, ?_⟩
    · rw [written, noted]
      simp [Moment.occurrences]
    · have counted := (takes_counted taken).remaining
      have positive : s.remaining ≠ 0 := by simpa [isOver] using running
      have pending : (exits before).length < started.length := by
        simp only [start] at counted
        omega
      exact .cons pending follows proceeds
  | case3 s w ended =>
    intro before taken
    rw [superviseFrom, dif_neg ended]
    exact ⟨[], by simp, .none s, proceeds_nil host p chosen started before⟩

theorem supervise_proceeds (timeout : Option Duration) (world : σ) :
    ∃ (moments : List (Moment σ)) (t : Supervision),
      (supervise host.chronicled p timeout chosen started (world, [])).2.2 =
        moments.flatMap Moment.occurrences ∧
      Takes chosen (start started.length) (moments.map (·.event)) t ∧
      Proceeds host p chosen started [] moments := by
  cases hwatch : host.watch (started.map (·.pid)) timeout world with
  | mk result world' =>
    have watched : host.chronicled.watch (started.map (·.pid)) timeout (world, []) =
        (result, (world', [])) := by
      simp [Host.chronicled, hwatch]
    rw [supervise, watched]
    cases result with
    | error e => exact ⟨[], _, rfl, .none _, proceeds_nil host p chosen started []⟩
    | ok _ =>
      obtain ⟨moments, written, takes, proceeds⟩ := superviseFrom_proceeds host p chosen started
        (start started.length) (world', []) [] (.none _)
      exact ⟨moments, _, by simpa using written, takes, proceeds⟩

end Rounds

/-- In every supervision the first interrupt is followed by a round of interrupts, the second one
by a round of kills and the deadline by a round of the chosen signal; interrupts beyond the second
and deadlines beyond the first are not taken, and no other event is followed by signals. In a round
every process whose exit is not recorded is tried once, whatever becomes of the others; and all
rounds come before the last exit is taken. -/
theorem rounds_follow_events (host : Host σ) (p : Text.Palette) (timeout : Option Duration)
    (chosen : Signal) (started : List Started) (world : σ) :
    let run := supervise host.chronicled p timeout chosen started (world, [])
    (run.1, run.2.1) = supervise host p timeout chosen started world ∧
    ∃ moments : List (Moment σ), run.2.2 = moments.flatMap Moment.occurrences ∧
      (moments.map (·.event)).count .interrupted ≤ 2 ∧
      (moments.map (·.event)).count .deadline ≤ 1 ∧
      (.interrupted ∉ moments.map (·.event) → .deadline ∉ moments.map (·.event) →
        ∀ pid signal w, .tried pid signal w ∉ run.2.2) ∧
      ∀ before m after, moments = before ++ m :: after →
        (exits (before.map (·.event))).length < started.length ∧
          m.Follows host p chosen started (before.map (·.event)) := by
  intro run
  have same : (run.1, run.2.1) = supervise host p timeout chosen started world :=
    host.chronicled_notes.toShadows.supervise p timeout chosen started (world, [])
  obtain ⟨moments, t, written, takes, proceeds⟩ :=
    supervise_proceeds host p chosen started timeout world
  have interrupts : t.interrupts = (moments.map (·.event)).count .interrupted := by
    simpa [start] using (takes_counted takes).interrupts
  have deadlines : t.timedOut.toNat = (moments.map (·.event)).count .deadline := by
    simpa [start] using takes_deadlines takes
  refine ⟨same, moments, written, ?_, ?_, ?_, proceeds⟩
  · rw [← interrupts]
    exact takes_interrupts_le takes (Nat.zero_le 2)
  · rw [← deadlines]
    exact Bool.toNat_le _
  · intro uninterrupted unhurried pid signal w tried
    rw [written] at tried
    obtain ⟨m, hm, tried⟩ := List.mem_flatMap.1 tried
    obtain ⟨before, after, split⟩ := List.append_of_mem hm
    cases (proceeds before m after split).2 with
    | exited _ silent => simp [Moment.occurrences, silent] at tried
    | first_interrupt event => exact uninterrupted (List.mem_map.2 ⟨m, hm, event⟩)
    | second_interrupt event => exact uninterrupted (List.mem_map.2 ⟨m, hm, event⟩)
    | deadline event => exact unhurried (List.mem_map.2 ⟨m, hm, event⟩)

namespace Sample

/-- What comes next for a supervision; what it does not listen to is lost. -/
def upcoming (s : Supervision) : List Event → Option s.Awaited × List Event
  | [] => (none, [])
  | e :: rest =>
    if listens : s.listensTo e = true then (some ⟨e, listens⟩, rest) else upcoming s rest

/-- A host whose world is the events that are still to come. Processes are numbered from 7; the exit
of one is recorded when it is not to come any more, and the first does not take signals. -/
def refusing : Host (List Event) where
  start _ events := (.ok 0, events)
  isRecorded pid events := !(exits events).any fun exit => exit.1 + 7 == pid
  kill pid _ events := (if pid = 7 then some .notPermitted else none, events)
  write _ _ events := events
  watch _ _ events := (.ok (), events)
  next := upcoming

def insistent : List Event :=
  [.interrupted, .exited 0 (.code 0), .interrupted, .interrupted, .deadline, .exited 1 (.code 0)]

def pair : List Started :=
  let mode : Mode := ⟨⟨1⟩, "echo", "say", [], none⟩
  let program : Program := ⟨"echo", ⟨1⟩, "/bin/echo", .ofList [("say", mode)], none⟩
  let launch : Launch := ⟨program, mode, [], .empty⟩
  [⟨7, launch⟩, ⟨8, launch⟩]

def chronicle : List (Occurrence (List Event)) :=
  (supervise refusing.chronicled ⟨false⟩ none .term pair (insistent, [])).2.2

def signal? : Occurrence σ → Option (Nat × Signal)
  | .took _ _ => none
  | .tried pid signal _ => some (pid, signal)

end Sample

/-- The third interrupt is not taken, and the process that does not take signals does not keep the
other from them. -/
theorem rounds_follow_sample :
    Sample.chronicle.filterMap Sample.signal? = [(7, .int), (8, .int), (8, .kill), (8, .term)] ∧
    ∃ moments, Sample.chronicle = moments.flatMap Moment.occurrences ∧
      (moments.map (·.event)).count .interrupted ≤ 2 ∧
      ∀ before m after, moments = before ++ m :: after →
        (exits (before.map (·.event))).length < 2 ∧
          m.Follows Sample.refusing ⟨false⟩ .term Sample.pair (before.map (·.event)) := by
  obtain ⟨-, moments, written, interrupts, -, -, each⟩ := rounds_follow_events Sample.refusing
    ⟨false⟩ none .term Sample.pair Sample.insistent
  exact ⟨by decide +kernel, moments, written, interrupts, each⟩

end Command
end Launcher

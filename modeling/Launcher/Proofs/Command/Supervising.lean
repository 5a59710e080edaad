import Launcher.Proofs.Host.Moves
import Launcher.Proofs.Supervision.Taking
/-!
How a launch judges its processes. Whatever the host makes of signals and whichever event it gives
next, the supervision takes its events one after another, and its verdict is about the statuses. -/
namespace Launcher

/-- The same host; the events that a supervision takes from it are written down in order. -/
def Host.heard (host : Host σ) : Host (σ × List Supervision.Event) where
  start launch w :=
    let (answer, world) := host.start launch w.1
    (answer, (world, w.2))
  isRecorded pid w := host.isRecorded pid w.1
  kill pid signal w :=
    let (refusal, world) := host.kill pid signal w.1
    (refusal, (world, w.2))
  write stream text w := (host.write stream text w.1, w.2)
  watch pids timeout w :=
    let (result, world) := host.watch pids timeout w.1
    (result, (world, w.2))
  next s w :=
    match host.next s w.1 with
    | (none, world) => (none, (world, w.2))
    | (some event, world) => (some event, (world, w.2 ++ [event.1]))

namespace Command

open Supervision

section Hearing

variable (host : Host σ) (p : Text.Palette) (chosen : Signal) (started : List Started)

/-- Events come only from waiting for them. -/
theorem heard_moves : host.heard.Moves fun w w' => w'.2 = w.2 where
  refl _ := rfl
  trans same later := later.trans same
  write _ _ _ := rfl
  kill _ _ _ := rfl

/-- What was heard was taken one by one, until no exit remained or no event was to come. -/
theorem superviseFrom_takes (s : Supervision) (w : σ × List Event) :
    let run := superviseFrom host.heard p chosen started s w
    ∃ es, run.2.2 = w.2 ++ es ∧ Takes chosen s es run.1 ∧
      (run.1.isOver = true ∨ ∃ world, (host.next run.1 world).1 = none) := by
  induction s, w using superviseFrom.induct host.heard p chosen started with
  | case1 s w running w' silent =>
    rw [superviseFrom, dif_pos running, silent]
    cases hnext : host.next s w.1 with
    | mk event world =>
      cases event with
      | some event => simp [Host.heard, hnext] at silent
      | none =>
        obtain rfl : (world, w.2) = w' := by simpa [Host.heard, hnext] using silent
        exact ⟨[], by simp, .none s, .inr ⟨w.1, by rw [hnext]⟩⟩
  | case2 s w running event w' came _ ih =>
    rw [superviseFrom, dif_pos running, came]
    cases hnext : host.next s w.1 with
    | mk given world =>
      cases given with
      | none => simp [Host.heard, hnext] at came
      | some given =>
        obtain ⟨rfl, rfl⟩ : given = event ∧ (world, w.2 ++ [given.1]) = w' := by
          simpa [Host.heard, hnext] using came
        obtain ⟨es, heard, takes, ended⟩ := ih
        refine ⟨given.1 :: es, ?_, .next running given.2 takes, ended⟩
        rw [heard, (heard_moves host).performAll p chosen started _ _]
        simp
  | case3 s w ended =>
    rw [superviseFrom, dif_neg ended]
    exact ⟨[], by simp, .none s, .inl (by simpa using ended)⟩

theorem supervise_takes (timeout : Option Duration) (world : σ)
    (ready : (host.watch (started.map (·.pid)) timeout world).1 = .ok ()) :
    let run := supervise host.heard p timeout chosen started (world, [])
    ∃ t, Takes chosen (start started.length) run.2.2 t ∧
      run.1 = verdictResult (t.verdict started.length) ∧
      (t.isOver = true ∨ ∃ world, (host.next t world).1 = none) := by
  unfold supervise
  cases hwatch : host.watch (started.map (·.pid)) timeout world with
  | mk result world' =>
    rw [hwatch] at ready
    obtain rfl : result = .ok () := ready
    have watched : host.heard.watch (started.map (·.pid)) timeout (world, []) =
        (.ok (), (world', [])) := by
      simp [Host.heard, hwatch]
    obtain ⟨es, heard, takes, ended⟩ :=
      superviseFrom_takes host p chosen started (start started.length) (world', [])
    simp only [List.nil_append] at heard
    rw [watched]
    exact ⟨_, heard ▸ takes, rfl, ended⟩

end Hearing

namespace Sample

/-- A host whose world is the events that are still to come; those nobody listens to are lost. -/
def scripted : Host (List Event) where
  start _ events := (.ok 0, events)
  isRecorded _ _ := false
  kill _ _ events := (none, events)
  write _ _ events := events
  watch _ _ events := (.ok (), events)
  next s events :=
    match events with
    | [] => (none, [])
    | event :: rest =>
      if listens : s.listensTo event = true then (some ⟨event, listens⟩, rest) else (none, rest)

/-- The deadline passes first, and the second process ends before the first one. -/
def late : List Event := [.deadline, .exited 1 (.code 2), .exited 0 (.code 0)]

def early : List Event := [.exited 0 (.code 0), .exited 1 (.code 2)]

theorem late_taken :
    Takes .term (start 2) late ⟨0, 1, 0, true⟩ :=
  .next rfl rfl (.next rfl rfl (.next rfl rfl (.none _)))

theorem early_taken : Takes .kill (start 2) early ⟨0, 1, 0, false⟩ :=
  .next rfl rfl (.next rfl rfl (.none _))

def started : List Started :=
  let mode : Mode := ⟨⟨1⟩, "echo", "say", [], none⟩
  let program : Program := ⟨"echo", ⟨1⟩, "/bin/echo", .ofList [("say", mode)], none⟩
  let launch : Launch := ⟨program, mode, [], .empty⟩
  [⟨7, launch⟩, ⟨8, launch⟩]

def run : Except CommandError Unit × List Event × List Event :=
  supervise scripted.heard ⟨false⟩ none .term started (late, [])

theorem run_heard : run.2.2 = late := by decide +kernel

end Sample

end Command
end Launcher

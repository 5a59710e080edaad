import Launcher.Proofs.Command.Starting
import Launcher.Proofs.Host.Turns
/-!
What is left of a launch whose links do not all start. The processes before the link that fails are
signalled, each in its turn and once, unless its exit is recorded by then. -/
namespace Launcher

namespace Host

variable (host : Host σ)

theorem accounted_notes : host.accounted.Notes host Prod.fst (fun w => Deed.signals w.2)
    fun pid signal _ => (pid, signal) where
  start launch w := by
    simp only [accounted]
    cases host.start launch w.1 with
    | mk answer world => cases answer <;> rfl
  isRecorded _ _ := rfl
  kill _ _ _ := rfl
  write _ _ _ := rfl
  watch _ _ _ := rfl
  next _ _ := rfl
  tried pid signal w := by simp [accounted]
  wrote _ _ _ := by simp [accounted]

end Host

namespace Command

section Stopping

variable (host : Host σ) (p : Text.Palette) (json : Bool) {catalog : Catalog}
variable {d : Discovery (σ × List Deed)}

theorem announceStop_accounted (started : List Started) (w : σ × List Deed) :
    (announceStop host.accounted p started w).1 = announceStop host p started w.1 ∧
    Deed.signals (announceStop host.accounted p started w).2 = Deed.signals w.2 := by
  unfold announceStop
  split <;> simp [Host.accounted]

theorem stopAll_signals (started : List Started) (w : σ × List Deed) :
    Deed.signals (stopAll host.accounted p started w).2 = Deed.signals w.2 ++
      ((host.turns .term (started.map (·.pid)) (announceStop host p started w.1)).filter
        host.canSignal).map fun turn => (turn.1, .term) := by
  obtain ⟨world, signals⟩ := announceStop_accounted host p started w
  rw [stopAll, host.accounted_notes.signalAll, world, signals]

/-- Work on a link starts the process that it comes to, if any, and signals none. -/
theorem start_deeds (keeps : d.Keeps Prod.snd) {v : Visit (σ × List Deed)}
    {answer : Except CommandError Started} {left : List String} {w' : σ × List Deed}
    (h : v.start host.accounted p json catalog d = (answer, left, w')) :
    Deed.spawned w'.2 = Deed.spawned v.world.2 ++ answer.toOption.toList ∧
      Deed.signals w'.2 = Deed.signals v.world.2 := by
  obtain ⟨w, cases⟩ := start_cases host json keeps v
  rcases cases with ⟨e, -, hstart, deeds⟩ | ⟨launch, cause, -, hstart, deeds⟩ |
    ⟨launch, pid, stream, text, -, hstart, deeds⟩
  all_goals
    obtain ⟨rfl, -, rfl⟩ : _ = answer ∧ _ = left ∧ w = w' := by
      simpa using hstart.symm.trans h
    simp [deeds, Except.toOption, List.filterMap_cons]

theorem InTurn.deeds (keeps : d.Keeps Prod.snd) {earlier : List Launch} {links : List ChainLink}
    {answers : List String} {w w' : σ × List Deed} {vs : List (Visit (σ × List Deed))}
    {started : List Started} {failure : Option CommandError}
    (h : InTurn (Visit.start host.accounted p json catalog d) Started.launch earlier links answers w
      vs started failure w') :
    Deed.spawned w'.2 = Deed.spawned w.2 ++ started ∧ Deed.signals w'.2 = Deed.signals w.2 := by
  induction h with
  | finished => simp
  | failed first => simpa [Except.toOption] using start_deeds host p json keeps first
  | went first _ ih =>
    obtain ⟨spawned, signals⟩ := start_deeds host p json keeps first
    exact ⟨by simp [ih.1, spawned, Except.toOption], ih.2.trans signals⟩

theorem launchChain_of_turns {host : Host σ} {d : Discovery σ} {options : Options.LaunchOptions}
    {links : List ChainLink} {answers : List String} {world world' : σ} {vs : List (Visit σ)}
    {started : List Started} {failure : Option CommandError}
    (turns : InTurn (Visit.start host p options.json catalog d) Started.launch [] links answers
      world vs started failure world') :
    launchChain host p options catalog d links answers world =
      match failure with
      | some e => (.error e, stopAll host p started world')
      | none => supervise host p options.timeout options.signal started world' := by
  have links_eq := turns.startLinks_eq []
  rw [List.nil_append] at links_eq
  unfold launchChain
  rw [links_eq]
  cases failure <;> rfl

end Stopping

/-- A launch that fails at a link has started exactly the links before it, in order. Each of their
processes has one turn in which it is sent a termination signal, unless its exit is recorded, and
nothing else is sent; the error is that of the link, and the links behind it have no part. When
every link starts, nothing is sent before all of them are supervised. -/
theorem failed_link_stops_started (host : Host σ) (p : Text.Palette)
    (options : Options.LaunchOptions) (catalog : Catalog) (d : Discovery σ)
    (links : List ChainLink) (answers : List String) (world : σ) :
    let start := Visit.start host.accounted p options.json catalog d.beside
    let run := fun links =>
      launchChain host.accounted p options catalog d.beside links answers (world, [])
    let turns := fun (started : List Started) world =>
      host.turns .term (started.map (·.pid)) (announceStop host p started world)
    ∃ vs started failure w,
      InTurn start Started.launch [] links answers (world, []) vs started failure w ∧
      Deed.spawned (run links).2.2 = started ∧
      (∀ k v e, vs[k]? = some v → (start v).1 = .error e →
        vs.map (·.link) = links.take (k + 1) ∧
        List.Forall₂ (fun u s => (start u).1 = .ok s) (vs.take k) started ∧
        (run links).1 = .error e ∧
        (turns started w.1).map (·.1) = started.map (·.pid) ∧
        Deed.signals (run links).2.2 =
          ((turns started w.1).filter host.canSignal).map (fun turn => (turn.1, .term)) ∧
        ∀ rest, run (links.take (k + 1) ++ rest) = run links) ∧
      (failure = none → vs.map (·.link) = links ∧
        List.Forall₂ (fun u s => (start u).1 = .ok s) vs started ∧ Deed.signals w.2 = [] ∧
        run links = supervise host.accounted p options.timeout options.signal started w) := by
  intro start run turns
  obtain ⟨vs, started, failure, w, visited⟩ :=
    inTurn_exists start Started.launch [] links answers (world, [])
  have keeps : Discovery.Keeps Prod.snd (d.beside : Discovery (σ × List Deed)) := beside_keeps d
  obtain ⟨spawned, signals⟩ := visited.deeds host p options.json keeps
  have ran : run links = _ := launchChain_of_turns p visited
  refine ⟨vs, started, failure, w, visited, ?_, ?_, ?_⟩
  · rw [ran]
    cases failure with
    | some e => exact (stopAll_no_attempt host p started w).spawned_eq.trans spawned
    | none =>
      exact (supervise_no_attempt host p options.timeout options.signal started w).spawned_eq.trans
        spawned
  · intro k v e hv fails
    obtain ⟨rfl, rfl⟩ := visited.of_fails hv fails
    have last : vs.length = started.length + 1 := by
      rcases visited.ending with ⟨unfailed, -⟩ | ⟨-, -, -, last, -⟩
      · cases unfailed
      · exact last
    refine ⟨by rw [visited.links_eq, last], visited.came_to, by rw [ran],
      host.map_fst_turns _ _ _, ?_, fun rest => ?_⟩
    · rw [ran, stopAll_signals host p, signals]
      rfl
    · rw [ran, ← last]
      exact launchChain_of_turns p (visited.cut nofun rest)
  · rintro rfl
    rcases visited.ending with ⟨-, same, whole⟩ | ⟨v, e, failed, -⟩
    · have came := visited.came_to
      rw [List.take_of_length_le (Nat.le_of_eq same)] at came
      exact ⟨whole, came, signals, ran⟩
    · cases failed

namespace Sample

def idle : Mode := ⟨⟨1⟩, "tool", "run", [], none⟩

def tool : Program := ⟨"tool", ⟨1⟩, "/bin/tool", .ofList [("run", idle)], none⟩

def tools : Catalog := ⟨[(⟨1⟩, tool)], .ofList [("tool", ⟨1⟩)]⟩

/-- Every start succeeds; processes are numbered, and the exit of number 7 is recorded. -/
def numbering : Host Nat where
  start _ pids := (.ok pids, pids + 1)
  isRecorded pid _ := pid == 7
  kill _ _ pids := (none, pids)
  write _ _ pids := pids
  watch _ _ pids := (.ok (), pids)
  next _ pids := (none, pids)

/-- The program of the third link is unknown. -/
def broken : List ChainLink :=
  [⟨"tool:run", []⟩, ⟨"tool:run", []⟩, ⟨"gone", []⟩, ⟨"tool:run", []⟩]

def undiscovered : Discovery Nat := Registry.empty.discovery

def options : Options.LaunchOptions := ⟨false, false, none, .term, []⟩

def stopped : Except CommandError Unit × Nat × List Deed :=
  launchChain numbering.accounted ⟨false⟩ options tools undiscovered.beside broken [] (7, [])

end Sample

theorem failed_link_stops_sample :
    Sample.stopped.1 = .error (.link (.lookup (.unknownProgram "gone"))) ∧
    (Deed.spawned Sample.stopped.2.2).map (·.pid) = [7, 8] ∧
    Deed.signals Sample.stopped.2.2 = [(8, .term)] := by
  obtain ⟨vs, started, failure, w, turns, spawned, failing, -⟩ :=
    failed_link_stops_started Sample.numbering ⟨false⟩ Sample.options Sample.tools
      Sample.undiscovered Sample.broken [] 7
  have worked := turns.startLinks_eq []
  have pids : started.map (·.pid) = [7, 8] := congrArg (fun r => r.1.1.map (·.pid)) worked.symm
  have failure_eq : failure = some (.link (.lookup (.unknownProgram "gone"))) :=
    congrArg (·.1.2) worked.symm
  rcases turns.ending with ⟨unfailed, -⟩ | ⟨v, e, failed, -, hv, fails⟩
  · cases failure_eq.symm.trans unfailed
  · obtain rfl := Option.some.inj (failure_eq.symm.trans failed)
    obtain ⟨-, -, error, -, signals, -⟩ := failing _ v _ hv fails
    have started_pids := congrArg (List.map (·.pid)) spawned
    refine ⟨error, started_pids.trans pids, signals.trans ?_⟩
    dsimp only
    rw [pids]
    rfl

end Command
end Launcher

import Launcher.Command.DryRun
import Launcher.Host.Basic
/-!
The `launch` command: the links of a chain are resolved and started in order, then all processes are
supervised. When a link cannot be started, the processes before it are stopped. -/
namespace Launcher.Command

open Text

structure Started where
  pid : Nat
  launch : Launch

/-- How the user is told about a process that was started. -/
def announcement (p : Palette) (json : Bool) (s : Started) : Stream × String :=
  if json then
    (.stdout, (Json.obj [("launch", .ofKeys s.launch.toJson), ("pid", .int s.pid)]).compact ++ "\n")
  else
    let mark := p.paint (.boldIn .green) "▶"
    let pid := p.paint (.ofEmphasis .dimmed) s!"[{s.pid}]"
    (.stderr, s!"{mark} {pid} {commandLineOf s.launch}\n")

/-- Starts link after link. `started` holds the processes so far, which later links are matched
against; the first link that fails ends the work. -/
def startLinks (host : Host σ) (p : Palette) (json : Bool) (catalog : Catalog)
    (discovery : Discovery σ) (started : List Started) :
    List ChainLink → List String → σ → (List Started × Option CommandError) × σ
  | [], _, world => ((started, none), world)
  | link :: rest, answers, world =>
    let (outcome, world) :=
      resolveLink p catalog discovery (started.map (·.launch)) link answers world
    let world := host.write .stderr outcome.notice world
    match outcome.result with
    | .error e => ((started, some (.link e)), world)
    | .ok launch =>
      match host.start launch world with
      | (.error cause, world) => ((started, some (.spawn link.target cause)), world)
      | (.ok pid, world) =>
        let (stream, text) := announcement p json ⟨pid, launch⟩
        startLinks host p json catalog discovery (started ++ [⟨pid, launch⟩]) rest
          outcome.answers (host.write stream text world)

/-- Tells the user that the processes will be stopped, if there are any. -/
def announceStop (host : Host σ) (p : Palette) (started : List Started) (world : σ) : σ :=
  if started.isEmpty then world
  else
    host.write .stderr
      (p.paint (.ofColour .yellow) s!"Stopping {started.length} already started process(es)."
        ++ "\n") world

/-- Stops what was started before a link failed. -/
def stopAll (host : Host σ) (p : Palette) (started : List Started) (world : σ) : σ :=
  host.signalAll .term (started.map (·.pid)) (announceStop host p started world)

/-- The report about a process that has ended. -/
def exitReport (p : Palette) (s : Started) (status : ExitStatus) : String :=
  let line := s!"{s.launch.mode.qualifiedName} [{s.pid}] finished: {status.render}"
  if status.isSuccess then p.paint (.ofColour .green) "■" ++ " " ++ line ++ "\n"
  else p.paint (.ofColour .red) "■" ++ " " ++ p.paint (.ofColour .red) line ++ "\n"

def perform (host : Host σ) (p : Palette) (chosen : Signal) (started : List Started) (world : σ) :
    Supervision.Action → σ
  | .report index status =>
    match started[index]? with
    | some s => host.write .stderr (exitReport p s status) world
    | none => world
  | .announceTimeout =>
    let text := s!"Timeout reached, sending {chosen.name}."
    host.write .stderr (p.paint (.ofColour .yellow) text ++ "\n") world
  | .signalAll signal => host.signalAll signal (started.map (·.pid)) world

/-- Takes events until all processes have ended. -/
def superviseFrom (host : Host σ) (p : Palette) (chosen : Signal) (started : List Started)
    (s : Supervision) (world : σ) : Supervision × σ :=
  if h : s.isOver = false then
    match host.next s world with
    | (none, world) => (s, world)
    | (some event, world) =>
      have := s.outstanding_step_lt chosen h event
      superviseFrom host p chosen started (s.step chosen event.1).1
        ((s.step chosen event.1).2.foldl (perform host p chosen started) world)
  else (s, world)
termination_by s.outstanding

def verdictResult : Supervision.Verdict → Except CommandError Unit
  | .success => .ok ()
  | .interrupted => .error .interrupted
  | .unsuccessful failed total => .error (.unsuccessful failed total)

/-- Supervises the processes and judges how they ended. -/
def supervise (host : Host σ) (p : Palette) (timeout : Option Duration) (chosen : Signal)
    (started : List Started) (world : σ) : Except CommandError Unit × σ :=
  match host.watch (started.map (·.pid)) timeout world with
  | (.error e, world) => (.error (.setup e), world)
  | (.ok (), world) =>
    let (s, world) :=
      superviseFrom host p chosen started (.start started.length) world
    (verdictResult (s.verdict started.length), world)

/-- Launches a chain: all links, then supervision; or as many as start, which are then stopped. -/
def launchChain (host : Host σ) (p : Palette) (options : Options.LaunchOptions) (catalog : Catalog)
    (discovery : Discovery σ) (links : List ChainLink) (answers : List String) (world : σ) :
    Except CommandError Unit × σ :=
  match startLinks host p options.json catalog discovery [] links answers world with
  | ((started, some e), world) => (.error e, stopAll host p started world)
  | ((started, none), world) => supervise host p options.timeout options.signal started world

def launch (host : Host σ) (c : Context) (discovery : Discovery σ) (words : List String)
    (world : σ) : Except CommandError Unit × σ :=
  match (Options.LaunchOptions.read words).mapError .usage with
  | .error e => (.error e, world)
  | .ok options =>
    match readChain options.chain with
    | .error e => (.error e, world)
    | .ok links =>
      match c.loadCatalog with
      | .error e => (.error e, world)
      | .ok catalog =>
        let answers := c.answersFor options.interactive
        launchChain host c.palette options catalog discovery links answers world

end Launcher.Command

import Launcher.Command.Description
import Launcher.Command.Help
import Launcher.Command.Launching
import Launcher.Command.Listing
/-!
The launcher as a whole: the first word names a command, which gets the words after it. An error is
reported at the end, and becomes the exit code. -/
namespace Launcher.Command

open Text

/-- Writes what a command has to tell. -/
def Report.deliver (r : Report) (host : Host σ) (world : σ) : Except CommandError Unit × σ :=
  (r.result, host.write .stderr r.stderr (host.write .stdout r.stdout world))

/-- Runs a command; without words, help is shown. -/
def dispatch (host : Host σ) (c : Context) (discovery : Discovery σ) (words : List String)
    (world : σ) : Except CommandError Unit × σ :=
  match words with
  | [] =>
    let p := helpPalette c.palette c.surroundings.environment
    (Report.success (helpText p)).deliver host world
  | word :: rest =>
    match Verb.ofWord? word with
    | none => (.error (.unknownCommand word), world)
    | some .info => (info c discovery rest world).deliver host world
    | some .launch => launch host c discovery rest world
    | some .list => (list c rest).deliver host world
    | some .resolve => (dryRun c discovery rest world).deliver host world

def exitCode : Except CommandError Unit → Nat
  | .ok () => 0
  | .error (.usage .helpRequested) => 0
  | .error (.usage .versionRequested) => 0
  | .error (.usage _) => 2
  | .error .interrupted => 130
  | .error _ => 1

/-- What is written about an error; after an interrupt there is nothing to say. -/
def finalReport (p : Palette) (help : String) : CommandError → Stream × String
  | .usage .helpRequested => (.stdout, help)
  | .usage .versionRequested => (.stdout, versionText)
  | .usage cause => (.stderr, s!"error: {usageText cause}\n")
  | .link (.resolution failure) => (.stderr, failureText p failure)
  | .interrupted => (.stderr, "")
  | e =>
    let label := p.paint (.boldIn .red) "Error"
    (.stderr, s!"\n{label}: {e.message}\n")

/-- Runs the launcher on its words. `order` is the order in which programs are loaded. Nobody is
asked for anything. -/
def run (host : Host σ) (s : Surroundings) (order : List Nat) (discovery : Discovery σ)
    (words : List String) (world : σ) : Nat × σ :=
  let p := Palette.ofEnvironment s.environment
  let (result, world) : Except CommandError Unit × σ :=
    match Options.MainOptions.read words with
    | .error e => (.error (.usage e), world)
    | .ok options => dispatch host ⟨s, p, options.catalog, order, []⟩ discovery options.words world
  match result with
  | .ok () => (0, world)
  | .error e =>
    let (stream, text) := finalReport p (helpText (helpPalette p s.environment)) e
    (exitCode (.error e), host.write stream text world)

end Launcher.Command

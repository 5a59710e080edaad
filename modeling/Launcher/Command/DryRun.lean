import Launcher.Command.Context
import Launcher.Shell.Quoting
/-!
The `resolve` command: what a launch of the same chain would run. Each link is resolved against
the launches of the links before it. -/
namespace Launcher.Command

/-- The launches of a chain or the error of the first link that has none, and what was shown. -/
structure ChainOutcome where
  result : Except LinkError (List Launch)
  warnings : List Warning
  notices : String

/-- Resolves link after link; `resolved` holds the launches so far. -/
def resolveChain (p : Text.Palette) (catalog : Catalog) (discovery : Discovery σ)
    (resolved : List Launch) : List ChainLink → List String → σ → ChainOutcome × σ
  | [], _, world => (⟨.ok resolved, [], ""⟩, world)
  | link :: rest, answers, world =>
    let (outcome, world) := resolveLink p catalog discovery resolved link answers world
    match outcome.result with
    | .error e => (⟨.error e, outcome.warnings, outcome.notice⟩, world)
    | .ok launch =>
      let (others, world) :=
        resolveChain p catalog discovery (resolved ++ [launch]) rest outcome.answers world
      (⟨others.result, outcome.warnings ++ others.warnings, outcome.notice ++ others.notices⟩,
        world)

def commandLineOf (l : Launch) : String := Shell.commandLine l.program.binary l.arguments

/-- The launches as indented JSON, or as one command line each. -/
def launchesText (json : Bool) (launches : List Launch) : String :=
  if json then (Json.arr (launches.map Launch.toJson)).pretty 0 ++ "\n"
  else String.join (launches.map fun l => commandLineOf l ++ "\n")

/-- The chain of a command's words. -/
def readChain (words : List String) : Except CommandError (List ChainLink) :=
  match Chain.split? words with
  | some links => .ok links
  | none => .error .emptyLink

def dryRun (c : Context) (discovery : Discovery σ) (words : List String) (world : σ) : Report :=
  .ofExcept do
    let options ← (Options.ResolveOptions.read words).mapError .usage
    let links ← readChain options.chain
    let catalog ← c.loadCatalog
    let answers := c.answersFor options.interactive
    let outcome := (resolveChain c.palette catalog discovery [] links answers world).1
    match outcome.result with
    | .error e => return ⟨"", outcome.notices, .error (.link e)⟩
    | .ok launches => return ⟨launchesText options.json launches, outcome.notices, .ok ()⟩

end Launcher.Command

import Launcher.Catalog.Loading
import Launcher.Command.Link
import Launcher.Command.Verb
import Launcher.Options.Command
import Launcher.Host.Basic
/-!
Why a command failed, and the text that tells the user. -/
namespace Launcher.Command

inductive CommandError where
  /-- The words do not fit the command, or ask for help or the version. -/
  | usage (cause : Options.UsageError)
  | unknownCommand (name : String)
  | emptyLink
  /-- No place for the catalog is known. -/
  | noCatalogPath (cause : PathError)
  | load (path : String) (cause : LoadError)
  | unknownProgram (name : String)
  | link (cause : LinkError)
  | spawn (target : String) (cause : SpawnError)
  | setup (cause : SetupError)
  /-- The user ended the supervision. -/
  | interrupted
  | unsuccessful (failed total : Nat)
  deriving DecidableEq, Repr

def loadContext (path : String) : String := s!"Failed to load the catalog '{path}'"

/-- An error and its causes, the outermost first. A text that already tells its cause is still
followed by it. -/
def loadCauses : LoadError → List String
  | .unreadable path cause => [LoadError.message (.unreadable path cause), cause.message]
  | e => [e.message]

def spawnCauses : SpawnError → List String
  | .os binary cause => [SpawnError.message (.os binary cause), cause.message]
  | .reaper pid cause => [SpawnError.message (.reaper pid cause), cause.message]

def usageText : Options.UsageError → String
  | .missingArgument => "a required argument is missing"
  | .badValue => "the value of an option is invalid"
  | .missingValue => "an option has no value"
  | .conflict => "an option is given twice"
  | .unexpectedValue => "an option takes no value"
  | .unknownArgument => "an argument is unexpected"
  | .helpRequested => "help"
  | .versionRequested => "version"

def CommandError.causes : CommandError → List String
  | .usage cause => [usageText cause]
  | .unknownCommand name =>
    let known := ", ".intercalate (Verb.all.map Verb.name)
    [s!"Unknown command '{name}'. Available commands: {known}."]
  | .emptyLink => [Chain.emptyLinkMessage]
  | .noCatalogPath cause => [cause.message]
  | .load path cause => loadContext path :: loadCauses cause
  | .unknownProgram name => [s!"No program named '{name}' in the catalog."]
  | .link (.lookup cause) => [cause.message]
  | .link (.resolution failure) => [failure.headline]
  | .spawn target cause => s!"Could not start '{target}'" :: spawnCauses cause
  | .setup cause => cause.causes
  | .interrupted => ["Interrupted."]
  | .unsuccessful failed total => [s!"{failed} of {total} process(es) did not exit successfully."]

/-- The error with its causes on one line. -/
def CommandError.message (e : CommandError) : String := ": ".intercalate e.causes

end Launcher.Command

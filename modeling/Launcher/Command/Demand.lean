import Launcher.Options.Command
import Launcher.Catalog.Loading
import Launcher.Settings
/-!
Which files and variables a command line will look at. Files are found out one by one: with those
that are known, loading the catalog either comes to an end or names the next one. -/
namespace Launcher.Command

/-- Variables that matter whatever the catalog says. -/
def standardVariables : List String :=
  ["HOME", "PATH", "XDG_CONFIG_HOME", "LAUNCHPAD_CATALOG", "CLICOLOR_FORCE", "NO_COLOR"]

/-- Variables that a text mentions. -/
def mentionedVariables (text : String) : List String :=
  (Path.pieces text.toList).filterMap fun piece =>
    match piece with
    | .variable name _ => some (String.ofList name)
    | .char _ => none

/-- Files that have been looked at, by path. -/
abbrev KnownFiles := List (String × Except OsError String)

/-- A file that has not been looked at counts as absent. -/
def KnownFiles.read (known : KnownFiles) (path : String) : Except OsError String :=
  (known.lookup path).getD (.error (.errno .noEntry))

/-- The next file that loading the catalog needs. -/
def nextFile? (e : Environment) (known : KnownFiles) (words : List String) : Option String := do
  let options ← (Options.MainOptions.read words).toOption
  let path ← (Settings.catalogPath e options.catalog).toOption
  match Catalog.ofFile ⟨e, KnownFiles.read known⟩ [] path with
  | .error (.unreadable file _) => if (known.lookup file).isNone then some file else none
  | _ => none

end Launcher.Command

import Launcher.Command.Error
import Launcher.Settings
/-!
What every command is given, and what it gives back. -/
namespace Launcher.Command

structure Context where
  surroundings : Surroundings
  palette : Text.Palette
  /-- The catalog file that the user names. -/
  catalog : Option String
  /-- The order in which the programs of the catalog are worked on. -/
  order : List Nat
  /-- What the user answers when a value is missing; none without a terminal to ask on. -/
  answers : List String

/-- The answers that a command may ask for. -/
def Context.answersFor (c : Context) (interactive : Bool) : List String :=
  if interactive then c.answers else []

/-- The texts that a command wrote, and whether it succeeded. -/
structure Report where
  stdout : String
  stderr : String
  result : Except CommandError Unit

namespace Report

def failure (e : CommandError) : Report := ⟨"", "", .error e⟩

def success (stdout : String) : Report := ⟨stdout, "", .ok ()⟩

def ofExcept : Except CommandError Report → Report
  | .ok r => r
  | .error e => failure e

end Report

def Context.loadCatalog (c : Context) : Except CommandError Catalog := do
  let path ← (Settings.catalogPath c.surroundings.environment c.catalog).mapError .noCatalogPath
  (Catalog.ofFile c.surroundings c.order path).mapError (.load path)

end Launcher.Command

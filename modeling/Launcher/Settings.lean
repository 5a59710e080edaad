import Launcher.Path.Expansion
/-!
Where the launcher keeps its configuration. -/
namespace Launcher.Settings

def applicationDirectory : String := "launchpad"

def catalogFile : String := "catalog.toml"

def catalogVariable : String := "LAUNCHPAD_CATALOG"

/-- The directory for configuration: `XDG_CONFIG_HOME` if it is absolute, else `.config` in the
home directory. -/
def configurationHome? (e : Environment) : Option String :=
  ((e.get? "XDG_CONFIG_HOME").filter fun d => Path.isAbsolute d.toList).or
    (e.home?.map fun home => Path.joinText home ".config")

def configurationDirectory (e : Environment) : Except PathError String :=
  match configurationHome? e with
  | some d => .ok (Path.joinText d applicationDirectory)
  | none => .error .configDirectoryNotFound

/-- The catalog's path: the one given, else the variable's unless it is empty, else the file in the
configuration directory. -/
def catalogPath (e : Environment) (given : Option String) : Except PathError String :=
  match given, e.nonEmpty? catalogVariable with
  | some path, _ => .ok path
  | none, some path => .ok path
  | none, none => (configurationDirectory e).map fun d => Path.joinText d catalogFile

end Launcher.Settings

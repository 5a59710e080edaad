import Launcher.Catalog.Basic
import Launcher.Text.Json
/-!
Resolved launches: a program, a mode of it, and a text for every parameter. -/
namespace Launcher

structure Launch where
  program : Program
  mode : Mode
  /-- In the order of the parameters, without the binary. -/
  arguments : List String
  /-- The same texts by parameter name. -/
  parameters : Index String

namespace Launch

def ofArguments (program : Program) (mode : Mode) (arguments : List String) : Launch :=
  { program, mode, arguments,
    parameters := .ofList ((mode.parameters.map (·.name)).zip arguments) }

def parameter? (l : Launch) (name : String) : Option String := l.parameters.get? name

def toJson (l : Launch) : Json :=
  .obj [("program", .str l.program.name), ("program_id", .str l.program.id.render),
    ("mode", .str l.mode.name), ("binary", .str l.program.binary),
    ("argv", .arr (l.arguments.map .str)),
    ("parameters", .obj (l.parameters.entries.map fun e => (e.1, .str e.2)))]

end Launch
end Launcher

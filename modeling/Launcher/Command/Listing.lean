import Launcher.Command.Context
/-!
The `list` command: the programs of the catalog, one a line, with their modes. -/
namespace Launcher.Command

open Text

def modeLabel (p : Palette) (program : Program) (m : Mode) : String :=
  if (program.defaultMode.map Mode.name) = some m.name then
    p.paint (.ofColour .green) (m.name ++ "*")
  else m.name

def programLine (p : Palette) (ids : Bool) (program : Program) : String :=
  let name := p.paintTo (.ofColour .cyan) 20 program.name
  let modes := ", ".intercalate (program.modes.map (modeLabel p program))
  if ids then s!"  {name} {p.paint (.ofEmphasis .dimmed) program.id.render}  [{modes}]\n"
  else s!"  {name} [{modes}]\n"

def listing (p : Palette) (ids : Bool) (c : Catalog) : String :=
  if c.isEmpty then p.paint (.ofEmphasis .dimmed) "The catalog has no programs." ++ "\n"
  else
    "\n" ++ p.paint (.ofEmphasis .bold) "Programs:" ++ "\n"
      ++ String.join (c.programs.map (programLine p ids))
      ++ "\n" ++ p.paint (.ofEmphasis .dimmed) "* marks the default mode." ++ "\n"

def list (c : Context) (words : List String) : Report :=
  .ofExcept do
    let options ← (Options.ListOptions.read words).mapError .usage
    let catalog ← c.loadCatalog
    return .success (listing c.palette options.ids catalog)

end Launcher.Command

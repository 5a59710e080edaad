import Launcher.Command.Context
/-!
The `info` command: a program, its modes, and the parameters of each with what may be given. -/
namespace Launcher.Command

open Text

/-- Longer lists are cut. -/
def shownCandidates : Nat := 8

def truncated (values : List Value) : String :=
  let shown := ", ".intercalate ((values.take shownCandidates).map Value.render)
  let more := values.length - shownCandidates
  "\x7b" ++ s!"{shown}, ... +{more} more" ++ "\x7d"

def candidatesLabel (p : Palette) : Option Candidates → String
  | none => p.paint (.ofEmphasis .dimmed) "(no selector)"
  | some c =>
    if c.isEmpty then p.paint (.ofColour .red) "(no candidates)"
    else
      match c with
      | .list values =>
        if values.length > shownCandidates then truncated values else "\x7b" ++ c.render ++ "\x7d"
      | .range _ _ => "\x7b" ++ c.render ++ "\x7d"

def notes (m : Mode) (q : Parameter) : List String :=
  (match q.default with
    | some v => [s!"(default: {v.render})"]
    | none => [])
    ++ (if q.optional then ["(optional)"] else [])
    ++ (if m.isMatched q.name then ["(matched)"] else [])

/-- A line for a parameter; discovery runs unless it is a literal. -/
def parameterLine (p : Palette) (discovery : Discovery σ) (m : Mode) (q : Parameter) (world : σ) :
    String × σ :=
  let (label, world) :=
    if q.isLiteral then ("", world)
    else
      let (candidates, world) := q.candidates discovery world
      (candidatesLabel p candidates, world)
  let name := p.paintTo (.ofEmphasis .bold) 18 q.name
  let kind := p.paintTo (.ofEmphasis .dimmed) 26 q.label
  let remarks := p.paint (.ofEmphasis .italic) (" ".intercalate (notes m q))
  (s!"    {name} {kind} {label} {remarks}\n", world)

/-- One text after another, each with the world that the one before left. -/
def textsOf (f : α → σ → String × σ) : List α → σ → String × σ
  | [], world => ("", world)
  | a :: rest, world =>
    let (text, world) := f a world
    let (others, world) := textsOf f rest world
    (text ++ others, world)

def modeText (p : Palette) (discovery : Discovery σ) (m : Mode) (world : σ) : String × σ :=
  let header :=
    "\n  " ++ p.paint (.ofEmphasis .bold) "Mode" ++ " " ++ p.paint (.boldIn .cyan) m.name ++ "\n"
  let matched :=
    match m.matched with
    | none => ""
    | some other =>
      let names := ", ".intercalate other.parameterNames
      let label := p.paint (.ofColour .blue) "matches:"
      s!"    {label} {p.paint (.ofColour .green) other.name} ({names})\n"
  if m.parameters.isEmpty then
    (header ++ matched ++ "    " ++ p.paint (.ofEmphasis .dimmed) "(no parameters)" ++ "\n", world)
  else
    let (lines, world) := textsOf (parameterLine p discovery m) m.parameters world
    (header ++ matched ++ lines, world)

def labelled (p : Palette) (label text : String) : String :=
  "  " ++ p.paintTo (.ofColour .blue) 15 label ++ " " ++ text ++ "\n"

def description (p : Palette) (discovery : Discovery σ) (program : Program) (world : σ) :
    String × σ :=
  let header := s!"\n--- Program '{p.paint (.ofColour .yellow) program.name}' ---\n"
  let default :=
    match program.defaultMode with
    | some m => m.name
    | none => p.paint (.ofEmphasis .dimmed) "none"
  let (modes, world) := textsOf (modeText p discovery) program.modes world
  (header ++ labelled p "Id:" program.id.render ++ labelled p "Binary:" program.binary
    ++ labelled p "Default mode:" default ++ modes ++ "\n---------------------------------\n",
    world)

def info (c : Context) (discovery : Discovery σ) (words : List String) (world : σ) : Report :=
  .ofExcept do
    let options ← (Options.InfoOptions.read words).mapError .usage
    let catalog ← c.loadCatalog
    match catalog.find? options.program with
    | none => throw (.unknownProgram options.program)
    | some program => return .success (description c.palette discovery program world).1

end Launcher.Command

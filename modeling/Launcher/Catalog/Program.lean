import Launcher.Catalog.Definition
import Launcher.Index
import Launcher.Text.Blank
/-!
Linked programs: every reference between modes has been followed. -/
namespace Launcher

/-- Another mode of the same program, with the names of its parameters in order. -/
structure MatchedMode where
  name : String
  parameterNames : List String
  deriving DecidableEq, Repr

/-- One way of running a program. -/
structure Mode where
  programId : ProgramId
  programName : String
  name : String
  parameters : List Parameter
  matched : Option MatchedMode
  deriving DecidableEq, Repr

namespace Mode

/-- Whether the matched mode declares a parameter of that name. -/
def isMatched (m : Mode) (parameter : String) : Bool :=
  m.matched.any fun other => other.parameterNames.contains parameter

/-- Whether the parameter must not be taken from a matched launch. A mode without a matched mode
leaves nothing out. -/
def isUnmatched (m : Mode) (parameter : String) : Bool :=
  m.matched.isSome && !m.isMatched parameter

def unmatchedParameters (m : Mode) : List Parameter :=
  m.parameters.filter fun p => m.isUnmatched p.name

/-- `program:mode`. -/
def qualifiedName (m : Mode) : String := m.programName ++ ":" ++ m.name

end Mode

/-- A program and the modes it can run in, stored under their names. -/
structure Program where
  name : String
  id : ProgramId
  binary : String
  modeIndex : Index Mode
  defaultName : Option String

namespace Program

def mode? (p : Program) (name : String) : Option Mode := p.modeIndex.get? name

/-- In order of their names. -/
def modes (p : Program) : List Mode := p.modeIndex.values

def defaultMode (p : Program) : Option Mode := p.defaultName.bind p.mode?

/-- The conditions on a program as a whole, in the order of their checks. -/
def checkHeader (d : ProgramDefinition) : Except CatalogError Unit :=
  if Text.isBlankText d.name then .error .emptyProgramName
  else if d.id.isZero then .error (.invalidId d.name d.id.render)
  else if d.binary.isEmpty then .error (.missingField d.name .binary)
  else if d.modes.isEmpty then .error (.noModes d.name)
  else .ok ()

/-- Parameter by parameter: a type that is not blank, then a name that is new. -/
def checkParameters (program mode : String) (seen : List String) :
    List Parameter → Except CatalogError Unit
  | [] => .ok ()
  | p :: rest =>
    if Text.isBlankText p.kind then .error (.emptyParameterType program mode p.name)
    else if seen.contains p.name then .error (.duplicateParameter program mode p.name)
    else checkParameters program mode (p.name :: seen) rest

/-- Every mode on its own, in the order of the definition, collected by name. -/
def collectModes (program : String) (known : Index ModeDefinition) :
    List ModeDefinition → Except CatalogError (Index ModeDefinition)
  | [] => .ok known
  | m :: rest =>
    match checkParameters program m.name [] m.parameters with
    | .error e => .error e
    | .ok () =>
      if known.contains m.name then .error (.duplicateMode program m.name)
      else collectModes program (known.insert m.name m) rest

/-- The first mode by name whose matched mode is unknown. -/
def checkMatched (program : String) (known : Index ModeDefinition) :
    List (String × ModeDefinition) → Except CatalogError Unit
  | [] => .ok ()
  | (name, m) :: rest =>
    match m.matched with
    | none => checkMatched program known rest
    | some other =>
      if known.contains other then checkMatched program known rest
      else .error (.unknownMatchedMode program name other)

/-- The reference to a mode of the same program, with a copy of its parameter names. -/
def matchedMode (known : Index ModeDefinition) (name : String) : Option MatchedMode :=
  (known.get? name).map fun m => ⟨name, m.parameters.map (·.name)⟩

def linkMode (d : ProgramDefinition) (known : Index ModeDefinition) (name : String)
    (m : ModeDefinition) : Mode :=
  { programId := d.id, programName := d.name, name := name, parameters := m.parameters,
    matched := m.matched.bind (matchedMode known) }

/-- The named mode, which must exist; without a name, the only mode if there is just one. -/
def chooseDefault (program : String) (named : Option String) (modes : Index Mode) :
    Except CatalogError (Option String) :=
  match named with
  | some name =>
    if modes.contains name then .ok (some name) else .error (.unknownDefaultMode program name)
  | none =>
    match modes.keys with
    | [name] => .ok (some name)
    | _ => .ok none

/-- Checks a definition and follows its references. -/
def link (d : ProgramDefinition) : Except CatalogError Program := do
  checkHeader d
  let known ← collectModes d.name .empty d.modes
  checkMatched d.name known known.entries
  let modes := known.mapValues (linkMode d known)
  let defaultName ← chooseDefault d.name d.defaultMode modes
  return { name := d.name, id := d.id, binary := d.binary, modeIndex := modes, defaultName }

end Program
end Launcher

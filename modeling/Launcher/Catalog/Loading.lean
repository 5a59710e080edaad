import Launcher.Catalog.Basic
import Launcher.Document.Decoding
import Launcher.Host.OsError
import Launcher.Path.Expansion
import Launcher.Text.Blank
/-!
Catalogs from their files. Every program of a catalog document becomes a definition on its own, in
any order; only when all of them have, the definitions are linked, in order of their names. -/
namespace Launcher

inductive LoadError where
  | unreadable (path : String) (cause : OsError)
  /-- The file is no TOML or does not fit the document. -/
  | malformed (path : String)
  | catalog (cause : CatalogError)
  | path (cause : PathError)
  deriving DecidableEq, Repr

/-- A malformed file is only named; what is wrong with it is for the reader of the file to see. -/
def LoadError.message : LoadError → String
  | .unreadable file cause => s!"Could not read '{file}': {cause.message}"
  | .malformed file => s!"Could not parse '{file}'"
  | .catalog cause => cause.message
  | .path cause => cause.message

/-- What a loader finds around it: the environment, and the texts of files. -/
structure Surroundings where
  environment : Environment
  fileText : String → Except OsError String

namespace Loading

def parameter (d : ParameterDocument) : Parameter :=
  ⟨d.name, d.kind, d.subtype, d.default, d.optional⟩

/-- Every omitted name must be that of a common parameter, the first of which must be optional. -/
def checkOmitted (program mode : String) (common : List Parameter) :
    List String → Except CatalogError Unit
  | [] => .ok ()
  | name :: rest =>
    match common.find? fun p => p.name == name with
    | none => .error (.omitUnknown program mode name)
    | some p =>
      if p.optional then checkOmitted program mode common rest
      else .error (.omitRequired program mode name)

/-- The common parameters that the mode takes, then its own. -/
def mergedParameters (common : List Parameter) (d : ModeDocument) : List Parameter :=
  (common.filter fun p => !d.omitted.contains p.name) ++ d.parameters.map parameter

def mode (program : String) (common : List Parameter) (name : String) (d : ModeDocument) :
    Except CatalogError ModeDefinition := do
  checkOmitted program name common d.omitted
  return { name, parameters := mergedParameters common d, matched := d.parameterMatch }

def modes (program : String) (common : List Parameter) :
    List (String × ModeDocument) → Except CatalogError (List ModeDefinition)
  | [] => .ok []
  | (name, d) :: rest => do
    let m ← mode program common name d
    let others ← modes program common rest
    return m :: others

def programId (name : String) : Option String → Except CatalogError ProgramId
  | none => .error (.missingField name .id)
  | some raw =>
    match ProgramId.parse? (Text.trimChars raw.toList) with
    | some id => .ok id
    | none => .error (.invalidId name raw)

/-- The path of the program's file; a blank text is no path. -/
def binary (e : Environment) (root name : String) (raw : Option String) :
    Except LoadError String :=
  let text := Text.trim (raw.getD "")
  if text.isEmpty then .error (.catalog (.missingField name .binary))
  else (Path.expand e root text).mapError .path

/-- The definition of a program; relative paths are seen from `root`. -/
def program (e : Environment) (root name : String) (d : ProgramDocument) :
    Except LoadError ProgramDefinition := do
  if Text.isBlankText name then throw (.catalog .emptyProgramName)
  let id ← (programId name d.id).mapError .catalog
  let binary ← binary e root name d.binary
  let common := d.commonParameters.map parameter
  let modes ← (modes name common d.modes.entries).mapError .catalog
  return { name, id, binary, modes, defaultMode := d.defaultMode }

def fileText (s : Surroundings) (path : String) : Except LoadError String :=
  (s.fileText path).mapError (.unreadable path)

/-- An entry of the catalog file, which is in the directory `root`. A file of its own is the root
of what it mentions. -/
def entry (s : Surroundings) (root name : String) :
    ProgramEntry → Except LoadError ProgramDefinition
  | .inline d => program s.environment root name d
  | .external file => do
    let path ← (Path.expand s.environment root file).mapError .path
    let text ← fileText s path
    match ProgramDocument.read? text with
    | none => throw (.malformed path)
    | some d => program s.environment (Path.directoryText path) name d

def error? : Except ε α → Option ε
  | .error e => some e
  | .ok _ => none

def sequence : List (Except ε α) → Except ε (List α)
  | [] => .ok []
  | r :: rest => do
    let a ← r
    let others ← sequence rest
    return a :: others

/-- All results, or one of the errors: the first by the order in which the work was done, which is
a list of positions. -/
def gather (order : List Nat) (results : List (Except ε α)) : Except ε (List α) :=
  match order.findSome? fun i => results[i]?.bind error? with
  | some e => .error e
  | none => sequence results

/-- The definitions of all programs in order of their names. -/
def definitions (s : Surroundings) (order : List Nat) (root : String) (d : CatalogDocument) :
    Except LoadError (List ProgramDefinition) :=
  gather order (d.programs.entries.map fun e => entry s root e.1 e.2)

end Loading

namespace Catalog

def ofDocument (s : Surroundings) (order : List Nat) (root : String) (d : CatalogDocument) :
    Except LoadError Catalog := do
  let definitions ← Loading.definitions s order root d
  (build definitions).mapError .catalog

/-- The catalog that a text describes, of which only the directory of `origin` is used. -/
def ofText (s : Surroundings) (order : List Nat) (text origin : String) :
    Except LoadError Catalog :=
  match CatalogDocument.read? text with
  | none => .error (.malformed origin)
  | some d => ofDocument s order (Path.directoryText origin) d

def ofFile (s : Surroundings) (order : List Nat) (path : String) : Except LoadError Catalog := do
  let text ← Loading.fileText s path
  ofText s order text path

end Catalog
end Launcher

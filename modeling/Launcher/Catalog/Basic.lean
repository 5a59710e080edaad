import Launcher.Catalog.Program
/-!
The catalog of all programs, found by identifier and by name, and the texts that name a target. -/
namespace Launcher

/-- Programs by identifier, and the identifiers by name. -/
structure Catalog where
  programsById : List (ProgramId × Program)
  idsByName : Index ProgramId

/-- Why a text names no target. -/
inductive LookupError where
  | unknownProgram (name : String)
  | unknownMode (program mode : String)
  | noDefaultMode (program : String)
  deriving DecidableEq, Repr

def LookupError.message : LookupError → String
  | .unknownProgram name => s!"No program named '{name}' in the catalog."
  | .unknownMode program mode => s!"Program '{program}' has no mode '{mode}'."
  | .noDefaultMode program =>
    s!"Program '{program}' has no default mode; name one as '{program}:<mode>'."

namespace Catalog

def empty : Catalog := ⟨[], .empty⟩

def program? (c : Catalog) (id : ProgramId) : Option Program := c.programsById.lookup id

def find? (c : Catalog) (name : String) : Option Program := (c.idsByName.get? name).bind c.program?

/-- In order of their names. -/
def programs (c : Catalog) : List Program := c.idsByName.values.filterMap c.program?

def size (c : Catalog) : Nat := c.programsById.length

def isEmpty (c : Catalog) : Bool := c.programsById.isEmpty

/-- A program whose identifier and name are both new. -/
def add (c : Catalog) (p : Program) : Except CatalogError Catalog :=
  match c.program? p.id with
  | some holder => .error (.duplicateId p.id holder.name p.name)
  | none =>
    if c.idsByName.contains p.name then .error (.duplicateProgramName p.name)
    else .ok ⟨(p.id, p) :: c.programsById, c.idsByName.insert p.name p.id⟩

def extend (c : Catalog) : List ProgramDefinition → Except CatalogError Catalog
  | [] => .ok c
  | d :: rest =>
    match Program.link d with
    | .error e => .error e
    | .ok p =>
      match c.add p with
      | .error e => .error e
      | .ok c => c.extend rest

/-- Links all definitions in order; the first error ends the construction. -/
def build (definitions : List ProgramDefinition) : Except CatalogError Catalog :=
  empty.extend definitions

/-- What stands before and after the first colon. -/
def cutColon : List Char → Option (List Char × List Char)
  | [] => none
  | c :: rest =>
    if c = ':' then some ([], rest)
    else (cutColon rest).map fun (before, after) => (c :: before, after)

/-- A target text as a program name and perhaps a mode name. -/
def readTarget (spec : String) : String × Option String :=
  match cutColon spec.toList with
  | none => (spec, none)
  | some (program, mode) => (String.ofList program, some (String.ofList mode))

/-- Finds `program` with its default mode, or `program:mode`. -/
def target (c : Catalog) (spec : String) : Except LookupError (Program × Mode) :=
  let (programName, modeName) := readTarget spec
  match c.find? programName with
  | none => .error (.unknownProgram programName)
  | some program =>
    match modeName with
    | some name =>
      match program.mode? name with
      | some mode => .ok (program, mode)
      | none => .error (.unknownMode programName name)
    | none =>
      match program.defaultMode with
      | some mode => .ok (program, mode)
      | none => .error (.noDefaultMode programName)

end Catalog
end Launcher

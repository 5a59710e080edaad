import Launcher.Index
import Launcher.Value
/-!
Catalog documents: what a configuration file says, before any of it is checked. -/
namespace Launcher

structure ParameterDocument where
  name : String
  kind : String
  subtype : Option String
  /-- A text, an integer, a floating-point number or a boolean. -/
  default : Option Value
  optional : Bool
  deriving DecidableEq, Repr

structure ModeDocument where
  parameters : List ParameterDocument
  parameterMatch : Option String
  /-- Names of common parameters that the mode does not take. -/
  omitted : List String
  deriving DecidableEq, Repr

structure ProgramDocument where
  id : Option String
  binary : Option String
  defaultMode : Option String
  /-- Parameters that come first in every mode. -/
  commonParameters : List ParameterDocument
  modes : Index ModeDocument

/-- A program stands in the catalog file or in a file of its own. -/
inductive ProgramEntry where
  | external (file : String)
  | inline (program : ProgramDocument)

structure CatalogDocument where
  programs : Index ProgramEntry

namespace Json

def ofOption (f : α → Json) : Option α → Json
  | none => .null
  | some a => f a

def ofIndex (f : α → Json) (index : Index α) : Json :=
  .obj (index.entries.map fun e => (e.1, f e.2))

end Json

def ParameterDocument.toJson (p : ParameterDocument) : Json :=
  .obj [("name", .str p.name), ("type", .str p.kind), ("subtype", .ofOption .str p.subtype),
    ("default", .ofOption Value.toJson p.default), ("optional", .bool p.optional)]

def ModeDocument.toJson (m : ModeDocument) : Json :=
  .obj [("parameters", .arr (m.parameters.map ParameterDocument.toJson)),
    ("parameter-match", .ofOption .str m.parameterMatch), ("omit", .arr (m.omitted.map .str))]

def ProgramDocument.toJson (p : ProgramDocument) : Json :=
  .obj [("id", .ofOption .str p.id), ("binary", .ofOption .str p.binary),
    ("default-mode", .ofOption .str p.defaultMode),
    ("common-parameters", .arr (p.commonParameters.map ParameterDocument.toJson)),
    ("modes", .ofIndex ModeDocument.toJson p.modes)]

def ProgramEntry.toJson : ProgramEntry → Json
  | .external file => .str file
  | .inline program => program.toJson

def CatalogDocument.toJson (d : CatalogDocument) : Json :=
  .obj [("programs", .ofIndex ProgramEntry.toJson d.programs)]

end Launcher

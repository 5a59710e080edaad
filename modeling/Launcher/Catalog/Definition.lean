import Launcher.Parameter
import Launcher.ProgramId
/-!
Programs as they are declared, where modes refer to each other by name, and the errors of
declarations. -/
namespace Launcher

structure ModeDefinition where
  name : String
  /-- In the order of the command line. -/
  parameters : List Parameter
  /-- The name of a mode of the same program. -/
  matched : Option String
  deriving DecidableEq, Repr

structure ProgramDefinition where
  name : String
  id : ProgramId
  binary : String
  modes : List ModeDefinition
  defaultMode : Option String
  deriving DecidableEq, Repr

/-- Fields that every program must have. -/
inductive RequiredField where
  | id
  | binary
  deriving DecidableEq, Repr

def RequiredField.name : RequiredField → String
  | .id => "id"
  | .binary => "binary"

inductive CatalogError where
  | emptyProgramName
  | missingField (program : String) (field : RequiredField)
  | invalidId (program value : String)
  | duplicateId (id : ProgramId) (first second : String)
  | duplicateProgramName (program : String)
  | noModes (program : String)
  | duplicateMode (program mode : String)
  | emptyParameterType (program mode parameter : String)
  | duplicateParameter (program mode parameter : String)
  | unknownMatchedMode (program mode matched : String)
  | unknownDefaultMode (program mode : String)
  | omitUnknown (program mode parameter : String)
  | omitRequired (program mode parameter : String)
  deriving DecidableEq, Repr

def CatalogError.message : CatalogError → String
  | .emptyProgramName => "A program was declared with an empty name."
  | .missingField program field =>
    s!"Program '{program}' is missing the required field '{field.name}'."
  | .invalidId program value => s!"Program '{program}' has an invalid id '{value}'."
  | .duplicateId id first second =>
    s!"Programs '{first}' and '{second}' share the id '{id.render}'."
  | .duplicateProgramName program => s!"Program name '{program}' is declared more than once."
  | .noModes program => s!"Program '{program}' declares no modes."
  | .duplicateMode program mode => s!"Program '{program}' declares mode '{mode}' more than once."
  | .emptyParameterType program mode parameter =>
    s!"Parameter '{parameter}' of mode '{program}:{mode}' has no type."
  | .duplicateParameter program mode parameter =>
    s!"Mode '{program}:{mode}' declares parameter '{parameter}' more than once."
  | .unknownMatchedMode program mode matched =>
    s!"Mode '{program}:{mode}' matches unknown mode '{matched}'."
  | .unknownDefaultMode program mode => s!"Program '{program}' names unknown default mode '{mode}'."
  | .omitUnknown program mode parameter =>
    s!"Mode '{program}:{mode}' omits '{parameter}', which is not a common parameter."
  | .omitRequired program mode parameter =>
    s!"Mode '{program}:{mode}' omits '{parameter}', which is not optional."

end Launcher

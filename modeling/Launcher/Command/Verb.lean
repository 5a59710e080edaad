/-!
The commands by name. -/
namespace Launcher.Command

inductive Verb where
  | info
  | launch
  | list
  | resolve
  deriving DecidableEq, Repr

namespace Verb

/-- In the order of their names. -/
def all : List Verb := [.info, .launch, .list, .resolve]

def name : Verb → String
  | .info => "info"
  | .launch => "launch"
  | .list => "list"
  | .resolve => "resolve"

/-- Another word for the same command. -/
def otherName : Verb → String
  | .info => "show"
  | .launch => "run"
  | .list => "ls"
  | .resolve => "args"

def ofWord? (word : String) : Option Verb :=
  all.find? fun v => v.name == word || v.otherName == word

end Verb
end Launcher.Command

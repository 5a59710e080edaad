/-!
What a command finds around it: environment variables, the current directory, and the home
directory of the account. -/
namespace Launcher

structure Environment where
  bindings : List (String × String)
  /-- An absolute path. -/
  workingDirectory : String
  /-- The home directory that the accounts of the system give. -/
  accountHome : Option String
  deriving Repr

namespace Environment

def get? (e : Environment) (name : String) : Option String := e.bindings.lookup name

/-- The variable's value unless that is the empty text. -/
def nonEmpty? (e : Environment) (name : String) : Option String :=
  (e.get? name).filter fun value => !value.isEmpty

/-- `HOME` counts unless it is empty. -/
def home? (e : Environment) : Option String := (e.nonEmpty? "HOME").or e.accountHome

end Environment
end Launcher

import Launcher.Shell.Starting
import Launcher.Utility.Editing
import Launcher.Utility.Excerpt
import Launcher.Utility.Expression
import Launcher.Utility.Files
import Launcher.Utility.Starting
/-!
The programs of the system by their names. -/
namespace Launcher.Utility

open Machine (Activity Doing)

def pwd : Program := fun i => do
  print i ((← Doing.ask .directory) ++ ['\n'])

def table : List (String × Program) :=
  [("true", fun _ => pure 0), ("false", fun _ => pure 1), ("echo", echo), ("printf", printf),
   ("cat", cat), ("sleep", sleep), ("pwd", pwd), ("test", condition false), ("[", condition true),
   ("env", env), ("printenv", printenv), ("head", head), ("tail", tail), ("wc", wc), ("sort", sort),
   ("yes", yes), ("seq", seq), ("tee", tee), ("basename", basename), ("dirname", dirname),
   ("touch", touch), ("mkdir", mkdir), ("rm", rm), ("rmdir", rmdir), ("ls", ls), ("mv", mv),
   ("cp", cp), ("chmod", chmod), ("grep", search []), ("egrep", search [('E', [])]),
   ("fgrep", search [('F', [])]), ("tr", translate), ("cut", cut), ("uniq", uniq), ("sed", edit),
   ("expr", expr), ("nohup", nohup), ("nice", nice), ("setsid", setsid), ("timeout", timeout),
   ("xargs", xargs), ("prlimit", prlimit)]

def shells : List String := ["sh", "dash", "bash"]

def programs : List String := shells ++ table.map fun e => e.1

/-- The activity of a program. -/
def run (program : String) (name : Bytes) (arguments : List Bytes)
    (environment : List (Bytes × Bytes)) : Activity :=
  if shells.contains program then Shell.start name arguments environment
  else
    match table.lookup program with
    | some p => (p ⟨name, arguments, environment⟩).toActivity
    | none => .ends 127

end Launcher.Utility

import Launcher.Shell.Builtin.Basic
import Launcher.Utility.Texts
/-!
Commands that write texts and look at conditions. -/
namespace Launcher.Shell.Builtin

def echo : Builtin := fun arguments => Act.print (Utility.echoText arguments)

def printf : Builtin := fun arguments => do
  let (_, words) ← flags "" arguments
  let r := Utility.Format.run .shell words
  for w in r.warnings do
    Act.warn (w.text .shell)
  if let some e := r.failure then
    Act.warn (e.text .shell)
  let status ← Act.print r.text
  if r.failure.isSome then
    Act.setStatus 2
    throw .fails
  return if r.warnings.isEmpty then status else 1

def judge (value : Utility.Condition.Reader Bool) : Act Nat := do
  match ← (value.run : Machine.Doing _) with
  | .ok holds => return if holds then 0 else 1
  | .error e => Act.fail (e.text .shell)

def test : Builtin := fun arguments => judge (Utility.Condition.value .shell arguments)

def bracket : Builtin := fun arguments => judge (Utility.Condition.bracketed .shell arguments)

end Launcher.Shell.Builtin

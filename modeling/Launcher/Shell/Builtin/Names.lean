import Launcher.Shell.Builtin.Basic
/-!
Commands about names that stand for texts. -/
namespace Launcher.Shell.Builtin

/-- A name with its text, as a command takes it. -/
def aliasText (a : Bytes × Bytes) : Bytes := a.1 ++ '=' :: quote a.2

def complainOfAlias (command : String) (name : Bytes) : Act Unit :=
  Act.write 2 (command.toList ++ ": ".toList ++ name ++ " not found\n".toList)

/-- A new text takes the place of an old one. -/
def putAlias (name text : Bytes) : List (Bytes × Bytes) → List (Bytes × Bytes)
  | [] => [(name, text)]
  | a :: rest => if a.1 = name then (name, text) :: rest else a :: putAlias name text rest

/-- Gives a text to a name, or shows the one that it has. -/
def nameText (argument : Bytes) : Act Nat := do
  let name := argument.takeWhile (· != '=')
  if name.length < argument.length ∧ !name.isEmpty then
    let text := argument.drop (name.length + 1)
    modify fun s => { s with aliases := putAlias name text s.aliases }
    return 0
  else
    match (← get).aliases.lookup argument with
    | some text => Act.print (aliasText (argument, text) ++ ['\n'])
    | none =>
      complainOfAlias "alias" argument
      return 1

/-- Names texts, or shows them all. -/
def nameTexts : Builtin := fun arguments => do
  if arguments.isEmpty then
    let aliases := (← get).aliases
    let sorted := (List.range Scope.groupCount).flatMap fun g =>
      aliases.filter fun a => Scope.group a.1 == g
    Act.print (sorted.flatMap fun a => aliasText a ++ ['\n'])
  else
    let mut status := 0
    for a in arguments do
      status := max status (← nameText a)
    return status

/-- Forgets texts. -/
def forgetTexts : Builtin := fun arguments => do
  let (given, names) ← flags "a" arguments
  if has given 'a' then
    modify fun s => { s with aliases := [] }
    return 0
  else
    let mut status := 0
    for name in names do
      let s ← get
      if (s.aliases.lookup name).isNone then
        complainOfAlias "unalias" name
        status := 1
      else set { s with aliases := s.aliases.filter fun a => a.1 != name }
    return status

end Launcher.Shell.Builtin

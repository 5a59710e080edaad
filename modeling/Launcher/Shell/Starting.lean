import Launcher.Shell.Evaluation
/-!
How a shell begins: what it takes from its arguments and from the variables around it, and where its
script comes from. -/
namespace Launcher.Shell

open Machine (Activity Doing)

namespace Starting

/-- Variables that every script has. -/
def givenBindings (parent : Nat) (directory : Bytes) : List (Bytes × Bytes × Bool) :=
  [(Builtin.searchName, Machine.standardSearch, false),
   (Scope.separatorName, Scope.defaultSeparators, false),
   ("PS1".toList, ['#', ' '], false), ("PS2".toList, ['>', ' '], false),
   ("PS4".toList, ['+', ' '], false), (Scope.optionIndexName, ['1'], false),
   ("PPID".toList, Scope.number parent, false),
   (Builtin.directoryName, directory, true)]

/-- Variables from outside come over the ones that are given, but for how fields are separated,
where `getopts` is, and facts about the process. -/
def bindings (environment given : List (Bytes × Bytes × Bool)) : List (Bytes × Binding) :=
  let settled : List Bytes :=
    [Scope.separatorName, Scope.optionIndexName, "PPID".toList, Builtin.directoryName]
  let known := (given.map fun e => e.1) ++ (environment.map fun e => e.1)
  known.eraseDups.filterMap fun name =>
    match environment.lookup name, given.lookup name with
    | some (_, exported), some (value, own) =>
      if settled.contains name then some (name, ⟨some value, exported || own, false⟩)
      else (environment.lookup name).map fun e => (name, ⟨some e.1, true, false⟩)
    | some (value, _), none => some (name, ⟨some value, true, false⟩)
    | none, some (value, own) => some (name, ⟨some value, own, false⟩)
    | none, none => none

/-- The scope of a shell that has not looked at its arguments. -/
def scope (pid parent : Nat) (directory name : Bytes) (environment : List (Bytes × Bytes)) :
    Scope where
  pid := pid
  name := name
  arguments := []
  bindings :=
    bindings ((environment.filter fun e => isName e.1).map fun e => (e.1, e.2, true))
      (givenBindings parent directory)
  directory := directory
  functions := []
  aliases := []
  documents := []
  nextDocument := 0
  options := []
  traps := []
  jobs := []
  lastBehind := none
  status := 0
  outputStatus := 0
  line := 0
  loops := 0
  kept := []
  heldStatus := none
  command := none
  optionIndex := 1
  letter := 0
  putAside := 0
  mask := 18

/-- Sets options from the first arguments; gives the rest, and whether a script is among them. -/
def readOptions : Nat → Bool → List Bytes → Act (Bool × List Bytes)
  | 0, isText, words => pure (isText, words)
  | fuel + 1, isText, words =>
    match words with
    | ['-'] :: rest => pure (isText, rest)
    | ['-', '-'] :: rest => pure (isText, rest)
    | (sign :: letters) :: rest => do
      if sign = '-' ∨ sign = '+' then
        let on := sign == '-'
        for c in letters.filter fun c => "clo".toList.all (· != c) do
          Builtin.setLetter c on
        let isText := isText || letters.contains 'c'
        if letters.contains 'o' then
          Builtin.setNamed on rest.head?
          readOptions fuel isText (rest.drop 1)
        else readOptions fuel isText rest
      else return (isText, words)
    | words => pure (isText, words)

/-- The whole text of a script file. -/
def fileText (path : Bytes) : Act Bytes := do
  let stream := 10
  match ← Act.call (.openFile stream path .reading) with
  | some e =>
    Act.fail ("cannot open ".toList ++ path ++ ": ".toList ++ Running.refusalText "No such file" e)
  | none =>
    let text ← (Doing.readAll stream Doing.patience [] : Doing _)
    Act.call (.close stream)
    return text.toOption.getD []

/-- Finds the script and runs it. -/
def body (words : List Bytes) : Act Unit := do
  let (isText, words) ← readOptions (words.length + 1) false words
  let begin (name : Bytes) (arguments : List Bytes) : Act Unit :=
    modify fun s => { s with name, arguments, line := 1 }
  let name := (← get).name
  match isText, words with
  | true, [] => Act.fail "-c requires an argument".toList
  | true, script :: rest =>
    begin (rest.headD name) (rest.drop 1)
    Running.runText run ⟨false, true⟩ script
  | false, words =>
    match if (← get).hasOption 's' then [] else words with
    | path :: rest =>
      let text ← fileText path
      begin path rest
      Running.runText run ⟨false, false⟩ text
    | [] =>
      begin name words
      let text ← (Doing.readAll 0 Doing.patience [] : Doing _)
      Running.runText run ⟨false, false⟩ (text.toOption.getD [])

end Starting

/-- The activity of a shell. -/
def start (name : Bytes) (arguments : List Bytes) (environment : List (Bytes × Bytes)) : Activity :=
  .asks .ownPid fun pid =>
    .asks .parentPid fun parent =>
      .asks .directory fun directory =>
        Running.life run (Starting.body arguments)
          (Starting.scope pid parent directory name environment)

end Launcher.Shell

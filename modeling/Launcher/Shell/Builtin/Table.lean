import Launcher.Shell.Builtin.Names
import Launcher.Shell.Builtin.Places
import Launcher.Shell.Builtin.Processes
import Launcher.Shell.Builtin.Texts
import Launcher.Shell.Builtin.Variables
/-!
Which commands belong to the shell itself, and what it says about names of commands. -/
namespace Launcher.Shell.Builtin

/-! ### Leaving -/

def exit : Builtin := fun arguments => do
  match arguments with
  | [] => pure ()
  | a :: _ =>
    let status ← number a
    modify fun s => { s with status, heldStatus := some status }
  throw .exits

def «return» : Builtin := fun arguments => do
  match arguments with
  | [] => pure ()
  | a :: _ => Act.setStatus (← number a)
  throw .returns

/-- Leaves as many loops as the argument says, but no more than there are. -/
def leaveLoop (goesOn : Bool) : Builtin := fun arguments => do
  let levels ←
    match arguments with
    | [] => pure 1
    | a :: _ => do
      let n ← number a
      if n = 0 then notANumber a else pure n
  let levels := min levels (← get).loops
  if levels = 0 then return 0
  else
    Act.setStatus 0
    throw (.leavesLoop levels goesOn)

/-! ### Names of commands -/

/-- Commands that need the shell as a whole. -/
inductive Whole where
  | evaluates
  | sources
  | executes
  | command
  | describes
  deriving DecidableEq, Repr

inductive Own where
  | whole (w : Whole)
  | plain (b : Builtin)

def own? : String → Option Own
  | "eval" => some (.whole .evaluates)
  | "." => some (.whole .sources)
  | "exec" => some (.whole .executes)
  | "command" => some (.whole .command)
  | "type" => some (.whole .describes)
  | ":" | "true" => some (.plain fun _ => pure 0)
  | "false" => some (.plain fun _ => pure 1)
  | "echo" => some (.plain echo)
  | "printf" => some (.plain printf)
  | "test" => some (.plain test)
  | "[" => some (.plain bracket)
  | "cd" | "chdir" => some (.plain cd)
  | "pwd" => some (.plain pwd)
  | "export" => some (.plain «export»)
  | "readonly" => some (.plain readonly)
  | "local" => some (.plain «local»)
  | "unset" => some (.plain unset)
  | "set" => some (.plain «set»)
  | "shift" => some (.plain shift)
  | "read" => some (.plain read)
  | "getopts" => some (.plain getopts)
  | "exit" => some (.plain exit)
  | "return" => some (.plain «return»)
  | "break" => some (.plain (leaveLoop false))
  | "continue" => some (.plain (leaveLoop true))
  | "trap" => some (.plain trap)
  | "kill" => some (.plain kill)
  | "wait" => some (.plain wait)
  | "times" => some (.plain times)
  | "umask" => some (.plain umask)
  | "ulimit" => some (.plain ulimit)
  | "jobs" => some (.plain jobs)
  | "hash" => some (.plain fun _ => pure 0)
  | "alias" => some (.plain nameTexts)
  | "unalias" => some (.plain forgetTexts)
  | "bg" | "fg" => some (.plain fun _ => Act.fail "No current job".toList)
  | _ => none

/-- A mistake in the use of a special command ends the script, and its assignments stay. -/
def isSpecial (name : String) : Bool := (specialCommands ++ ["local"]).contains name

/-- Words with an equals sign are taken as assignments. -/
def takesAssignments (name : String) : Bool :=
  ["export", "readonly", "local", "alias"].contains name

/-- What a name stands for as the first word of a command. -/
inductive Meaning where
  | function (body : Script)
  | own (o : Own)
  | program

def meaning (s : Scope) (withFunctions : Bool) (name : Bytes) : Meaning :=
  match if withFunctions then s.functions.lookup name else none with
  | some body => .function body
  | none =>
    match own? (String.ofList name) with
    | some o => .own o
    | none => .program

/-- What is said about a name: in a whole sentence, or by a text that can be run. -/
def describe (sentence : Bool) (search name : Bytes) : Act Nat := do
  let say (long : String) (short : Bytes) : Act Nat :=
    Act.print ((if sentence then name ++ long.toList else short) ++ ['\n'])
  if keywords.contains (String.ofList name) then say " is a shell keyword" name
  else if let some text := (← get).aliases.lookup name then
    say (" is an alias for " ++ String.ofList text) ("alias ".toList ++ aliasText (name, text))
  else
    match meaning (← get) true name with
    | .function _ => say " is a shell function" name
    | .own _ =>
      if specialCommands.contains (String.ofList name) then say " is a special shell builtin" name
      else say " is a shell builtin" name
    | .program =>
      match ← findProgram search name with
      | .ok path => say (" is " ++ String.ofList path) path
      | .error _ =>
        if sentence then
          let _ ← Act.print (name ++ ": not found\n".toList)
        return 127

def describeAll (sentence : Bool) (search : Bytes) : List Bytes → Act Nat
  | [] => pure 0
  | name :: rest => do
    let status ← describe sentence search name
    let others ← describeAll sentence search rest
    return status ||| others

def type : Builtin := fun arguments => do describeAll true (← search) arguments

/-- The command that says what names stand for. -/
def command : Builtin := fun arguments => do
  let (given, names) ← flags "pvV" arguments
  let search ← if has given 'p' then pure Machine.standardSearch else search
  match names with
  | [] => return 0
  | name :: _ =>
    if has given 'v' || has given 'V' then describe (has given 'V') search name else return 0

end Launcher.Shell.Builtin

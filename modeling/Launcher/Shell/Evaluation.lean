import Launcher.Shell.Builtin.Table
/-!
How scripts are run: one kind of script after the other, given how the parts of a script are run. -/
namespace Launcher.Shell

namespace Evaluation

open Running
open Builtin (Whole Own Meaning)

/-! ### Simple commands -/

/-- Fields of words up to the first word that has any, and the words after that. -/
def firstFields (x : Expansion) : List Word → Act (List Bytes × List Word)
  | [] => pure ([], [])
  | w :: rest => do
    match ← x.fields w with
    | [] => firstFields x rest
    | fields => return (fields, rest)

/-- What a command is understood as, before all of its words are expanded. -/
structure Understanding where
  fields : List Bytes
  /-- Words that have not been expanded. -/
  words : List Word
  means : Meaning
  /-- The first command that belongs to the shell is a special one, if there is any. -/
  special : Option Bool
  /-- Where programs are looked for if not where the script says. -/
  search : Option Bytes

/-- Passes over the flags of `command`; nothing comes back if it has flags that ask about a name. -/
def passFlags (x : Expansion) : Nat → Option Bytes → List Bytes → List Word →
    Act (Option (Option Bytes × List Bytes × List Word))
  | 0, _, _, _ => pure none
  | fuel + 1, search, fields, words => do
    let (fields, words) ← if fields.isEmpty then firstFields x words else pure (fields, words)
    match fields with
    | [] => return none
    | ['-', '-'] :: rest =>
      let (fields, words) ← if rest.isEmpty then firstFields x words else pure (rest, words)
      return if fields.isEmpty then none else some (search, fields, words)
    | ('-' :: c :: letters) :: rest =>
      if (c :: letters).all (· == 'p') then
        passFlags x fuel (some Machine.standardSearch) rest words
      else return none
    | _ => return some (search, fields, words)

/-- Finds out what the first word means. After `command` it is the word after that. -/
def understand (x : Expansion) : Nat → Understanding → Act Understanding
  | 0, u => pure u
  | fuel + 1, u => do
    match u.fields with
    | [] => return u
    | name :: rest =>
      let s ← get
      let means := Builtin.meaning s u.special.isNone name
      let special :=
        match means, u.special with
        | .own _, none => some (Builtin.isSpecial (String.ofList name))
        | _, known => known
      let u := { u with means, special }
      match means with
      | .own (.whole .command) =>
        match ← passFlags x (rest.length + u.words.length + 1) u.search rest u.words with
        | some (search, fields, words) => understand x fuel { u with search, fields, words }
        | none => return u
      | _ => return u

/-- Expands a word where assignments are not split. -/
def expandArgument (x : Expansion) (assigns : Bool) (w : Word) : Act (List Bytes) :=
  match if assigns then assignment? w else none with
  | some (name, value) => do return [name ++ '=' :: (← x.value value)]
  | none => x.fields w

def isName (u : Understanding) (name : String) : Bool := u.fields.head? == some name.toList

/-- Makes the assignments in front of a command; `kept` ones are undone after it. -/
def assignAll (x : Expansion) (kept exported : Bool) : List (Bytes × Word) → Act (List Bytes)
  | [] => pure []
  | (name, word) :: rest => do
    let value ← x.value word
    if kept then modify fun s => s.keep name
    Act.setVariable name value
    if kept || exported then modify fun s => s.setExported name
    let others ← assignAll x kept exported rest
    return (name ++ '=' :: value) :: others

/-- Shows a command before it is run. -/
def traceCommand (x : Expansion) (texts : List Bytes) : Act Unit := do
  let s ← get
  if s.hasOption 'x' then
    let lead := (s.value? ['P', 'S', '4']).getD []
    let source := Source.ofText lead 1 0
    let lead ←
      match (Reader.pieces (Reader.fuelFor source) .document []).run source with
      | .ok (word, _) => x.document word
      | .error _ => pure lead
    Act.write 2 (lead ++ Utility.joined texts ++ ['\n'])

/-- Starts a program, in a child unless nothing comes after it. -/
def runProgram (run : Runner) (mode : Mode) (search : Option Bytes) (fields : List Bytes) :
    Act Unit := do
  let name := fields.headD []
  let search ← match search with
    | some search => pure search
    | none => Builtin.search
  let start (paths : List Bytes) : Act Unit := do
    let e ← Builtin.become name (fields.drop 1) paths
    Act.warn (name ++ ": ".toList ++ Builtin.startRefusal e)
    Act.setStatus (Builtin.startStatus e)
    Act.leave
  let go (paths : List Bytes) : Act Unit := do
    if mode.final && !(← get).hasTraps then start paths
    else Act.setStatus (← runChild run (start paths))
  if name.contains '/' then go [name]
  else
    match ← Builtin.findProgram search name with
    | .error e =>
      Act.warn (name ++ ": ".toList ++ Builtin.startRefusal e)
      Act.setStatus 127
    | .ok _ => go (Machine.candidates search name)

/-- Runs the body of a function with other arguments. -/
def callFunction (run : Runner) (mode : Mode) (body : Script) (arguments : List Bytes) :
    Act Unit := do
  let outer ← get
  set { outer.withArguments arguments with loops := 0 }
  let result ← Act.attempt (run { mode with final := false } body)
  modify fun s =>
    { s with
      arguments := outer.arguments, optionIndex := outer.optionIndex, letter := outer.letter
      loops := outer.loops }
  match result with
  | .error .returns => pure ()
  | result => Act.resume result

/-- The path and the text of a script, which is looked for like a program. -/
def sourceText (name : Bytes) : Act (Bytes × Bytes) := do
  let path ←
    if name.contains '/' then pure name
    else
      match ← Builtin.findProgram (← Builtin.search) name with
      | .ok path => pure path
      | .error _ => Act.fail (name ++ ": not found".toList)
  let stream := 16
  match ← Act.call (.openFile stream path .reading) with
  | some e =>
    Act.fail ("cannot open ".toList ++ path ++ ": ".toList ++ refusalText "No such file" e)
  | none =>
    let text ← (Machine.Doing.readAll stream Machine.Doing.patience [] : Machine.Doing _)
    Act.call (.close stream)
    return (path, text.toOption.getD [])

/-- Runs a script of its own that `return` leaves. -/
def runSourced (run : Runner) (mode : Mode) (arguments : List Bytes) : Act Nat := do
  match arguments with
  | [] => return 0
  | name :: _ =>
    let (path, text) ← sourceText name
    modify fun s => { s with status := 0, command := some path }
    match ← Act.attempt (runText run { mode with final := false } text) with
    | .error .returns => return (← get).status
    | result =>
      Act.resume result
      return (← get).status

/-- Runs a command that belongs to the shell. -/
def runOwn (run : Runner) (mode : Mode) (o : Own) (arguments : List Bytes) : Act Nat := do
  match o with
  | .plain b => b arguments
  | .whole .evaluates =>
    if arguments.isEmpty then return 0
    else
      Act.setStatus 0
      runText run { mode with final := false } (Utility.joined arguments)
      return (← get).status
  | .whole .sources => runSourced run mode arguments
  | .whole .executes =>
    match arguments with
    | [] => return 0
    | name :: rest =>
      let e ← Builtin.become name rest (Machine.candidates (← Builtin.search) name)
      Act.warn (name ++ ": ".toList ++ Builtin.startRefusal e)
      Act.setStatus (Builtin.startStatus e)
      Act.leave
  | .whole .command => Builtin.command arguments
  | .whole .describes => Builtin.type arguments

/-- Runs a command that belongs to the shell under its name. A mistake in one that is not special
does not end the script. -/
def callOwn (run : Runner) (mode : Mode) (special : Bool) (o : Own) (fields : List Bytes) :
    Act Unit := do
  let outer := (← get).command
  modify fun s => { s with command := fields.head? }
  let result ← Act.attempt (runOwn run mode o (fields.drop 1))
  modify fun s => { s with command := outer }
  match result with
  | .ok status => Act.setStatus status
  | .error .fails => if special then throw .fails else pure ()
  | .error leaving => throw leaving

/-- Runs a command whose words have been expanded. -/
def runUnderstood (run : Runner) (mode : Mode) (assignments : List (Bytes × Word))
    (u : Understanding) : Act Unit := do
  let x := expansion run
  let kept := !u.fields.isEmpty && u.special != some true
  let exported := isName u "exec" && u.fields.length > 1
  let texts ← assignAll x kept exported assignments
  traceCommand x (texts ++ u.fields)
  if u.fields.isEmpty then modify fun s => { s with status := s.outputStatus }
  else
    match u.means with
    | .function body => callFunction run mode body (u.fields.drop 1)
    | .own o => callOwn run mode (u.special == some true) o u.fields
    | .program => runProgram run mode u.search u.fields

/-- Runs a simple command. -/
def runCommand (run : Runner) (mode : Mode) (line : Nat) (assignments : List (Bytes × Word))
    (words : List Word) (redirections : List Redirection) : Act Unit := do
  let x := expansion run
  modify fun s => { s with line, outputStatus := 0 }
  Act.call (.pass 1000)
  let (fields, words) ← firstFields x words
  let u ← understand x (words.length + fields.length + 1) ⟨fields, words, .program, none, none⟩
  let assigns : Bool :=
    match u.means with
    | .own _ => Builtin.takesAssignments (String.ofList (u.fields.headD []))
    | _ => false
  let more ← u.words.mapM (expandArgument x assigns)
  let u := { u with fields := u.fields ++ more.flatten, words := [] }
  let isPermanent := isName u "exec" && u.fields.length = 1 && u.means matches .own _
  let keeps := !u.fields.isEmpty && u.special != some true
  if keeps then modify fun s => { s with kept := [] :: s.kept }
  let body := runUnderstood run mode assignments u
  let result ← Act.attempt do
    if isPermanent then
      redirectHere run redirections
      body
      return true
    else redirectWhile run redirections body
  if keeps then modify Scope.goBack
  match result with
  | .ok true => pure ()
  | .ok false => if u.special = some true then throw .fails else pure ()
  | .error leaving => throw leaving

/-! ### Loops -/

/-- What becomes of a loop when its body has left something. -/
inductive AfterBody where
  | goOn
  | stops
  | leaves (l : Leaving)
  deriving DecidableEq, Repr

def afterBody : Except Leaving Unit → AfterBody
  | .ok _ => .goOn
  | .error (.leavesLoop levels goesOn) =>
    if levels > 1 then .leaves (.leavesLoop (levels - 1) goesOn)
    else if goesOn then .goOn
    else .stops
  | .error leaving => .leaves leaving

/-- Repeats the body as the test says. The status is that of the last body. -/
def runLoop (run : Runner) (mode : Mode) (untilTrue : Bool) (test body : Script) :
    Nat → Nat → Act Unit
  | 0, _ => throw .fails
  | fuel + 1, status => do
    match afterBody (← Act.attempt (run ⟨true, false⟩ test)) with
    | .leaves leaving => throw leaving
    | .stops => Act.setStatus status
    | .goOn =>
      if ((← get).status == 0) == untilTrue then Act.setStatus status
      else
        let result ← Act.attempt (run { mode with final := false } body)
        match afterBody result with
        | .leaves leaving => throw leaving
        | .stops => pure ()
        | .goOn => runLoop run mode untilTrue test body fuel (← get).status

def runEach (run : Runner) (mode : Mode) (name : Bytes) (body : Script) : List Bytes → Act Unit
  | [] => pure ()
  | value :: rest => do
    Act.setVariable name value
    let result ← Act.attempt (run { mode with final := false } body)
    match afterBody result with
    | .leaves leaving => throw leaving
    | .stops => pure ()
    | .goOn => runEach run mode name body rest

def inLoop (body : Act Unit) : Act Unit := do
  modify fun s => { s with loops := s.loops + 1 }
  let result ← Act.attempt body
  modify fun s => { s with loops := s.loops - 1 }
  Act.resume result

/-- Whether one of the patterns covers the text. -/
def coversAny (x : Expansion) (text : Bytes) : List Word → Act Bool
  | [] => pure false
  | p :: rest => do
    if (← x.pattern p).covers text then return true else coversAny x text rest

/-- The script of the first branch with a pattern that covers the text. -/
def chosen (x : Expansion) (text : Bytes) : List (List Word × Script) → Act Script
  | [] => pure .empty
  | (patterns, body) :: rest => do
    if ← coversAny x text patterns then return body else chosen x text rest

/-! ### Scripts -/

/-- Ends the script where a command has failed that nobody tests, if the script is to end then. -/
def checkStatus (mode : Mode) : Act Unit := do
  let s ← get
  if s.status != 0 && !mode.tested && s.hasOption 'e' then Act.leave

def runParts (run : Runner) (mode : Mode) (parts : List Script) (behind : Bool) : Act Unit := do
  let job ← newJob
  startParts run { mode with tested := mode.tested && !behind } job behind true parts
  if behind then Act.setStatus 0
  else Act.setStatus (← waitForJob job Machine.Doing.patience)

/-- Runs a script in a child, or here if nothing comes after it. -/
def runSubshell (run : Runner) (mode : Mode) (body : Script) (redirections : List Redirection) :
    Act Unit := do
  let inside : Act Unit := do
    if !redirections.isEmpty then redirectHere run redirections
    run { mode with final := true } body
  if mode.final && !(← get).hasTraps then
    inside
    Act.leave
  else Act.setStatus (← runChild run inside)

def runBehind (run : Runner) (body : Script) (redirections : List Redirection) : Act Unit := do
  let job ← newJob
  let inside : Act Unit := do
    if !redirections.isEmpty then redirectHere run redirections
    run ⟨false, true⟩ body
  spawn run job true closeInput inside
  Act.setStatus 0

/-- Runs a script of one kind; nothing is done about signals. -/
def runKind (run : Runner) (mode : Mode) : Script → Act Unit
  | .empty => pure ()
  | .command line assignments words redirections => do
    runCommand run mode line assignments words redirections
    checkStatus mode
  | .define name body => do
    modify fun s => { s with functions := (name, body) :: s.functions.filter fun f => f.1 != name }
    Act.setStatus 0
  | .sequence first next => do
    run { mode with final := false } first
    run mode next
  | .both first next => do
    run ⟨true, false⟩ first
    if (← get).status = 0 then run mode next
  | .either first next => do
    run ⟨true, false⟩ first
    if (← get).status ≠ 0 then run mode next
  | .negated body => do
    run ⟨true, false⟩ body
    modify fun s => { s with status := if s.status = 0 then 1 else 0 }
  | .pipeline parts behind => do
    runParts run mode parts behind
    checkStatus mode
  | .subshell line body redirections => do
    modify fun s => { s with line }
    runSubshell run mode body redirections
    checkStatus mode
  | .background line body redirections => do
    modify fun s => { s with line }
    runBehind run body redirections
  | .conditional test yes no => do
    run ⟨true, false⟩ test
    if (← get).status = 0 then run mode yes
    else
      match no with
      | .empty => Act.setStatus 0
      | no => run mode no
  | .loop untilTrue test body =>
    inLoop (runLoop run mode untilTrue test body Machine.Doing.patience 0)
  | .each line name words body => do
    modify fun s => { s with line }
    let values ← (expansion run).allFields words
    Act.setStatus 0
    inLoop (runEach run mode name body values)
  | .choice line word branches => do
    modify fun s => { s with line }
    let x := expansion run
    let text ← x.text word
    match ← chosen x text branches with
    | .empty => Act.setStatus 0
    | body => run mode body
  | .redirected line body redirections => do
    modify fun s => { s with line }
    let _ ← redirectWhile run redirections (run { mode with final := false } body)

/-- Runs actions for signals that have come, if there are any actions. -/
def lookAtSignals (run : Runner) : Act Unit := do
  if (← get).hasTraps then runTraps run

/-- Runs a script. Actions for signals come between commands. -/
def runScript (run : Runner) : Runner := fun mode script => do
  match script with
  | .empty => pure ()
  | script =>
    if (← get).hasOption 'n' then pure ()
    else
      lookAtSignals run
      runKind run mode script
      lookAtSignals run

/-- Runs scripts that are not nested more deeply than the number says. -/
def runner : Nat → Runner
  | 0, _, _ => throw .fails
  | n + 1, mode, script => runScript (runner n) mode script

end Evaluation

/-- How scripts are run. -/
def run : Runner := Evaluation.runner 100000

end Launcher.Shell

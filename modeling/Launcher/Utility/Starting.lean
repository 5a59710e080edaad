import Launcher.Machine.Search
import Launcher.Utility.Texts
/-!
Programs that start another one. -/
namespace Launcher.Utility

open Machine (Doing)

def variablesText (environment : List (Bytes × Bytes)) : Bytes :=
  environment.flatMap fun (name, value) => name ++ '=' :: value ++ ['\n']

def printenv : Program := fun i => do
  if i.arguments.isEmpty then print i (variablesText i.environment)
  else
    forEach
      (fun name => do
        match i.environment.lookup name with
        | some value => print i (value ++ ['\n'])
        | none => return 1) i.arguments

/-- Becomes a program that is looked for as usual, or says why there is none. -/
def become (name : Bytes) (arguments : List Bytes) (environment : List (Bytes × Bytes)) :
    Doing Errno := do
  let search := (environment.lookup "PATH".toList).getD "/bin:/usr/bin".toList
  let paths := if name.isEmpty then [] else Machine.candidates search name
  Doing.become name arguments environment .noEntry paths

/-- The status of a program that could not start another one. -/
def refusedStatus (e : Errno) : Nat := if e = .noEntry then 127 else 126

/-- Changes variables as the arguments say; gives the command after them. -/
def changeVariables (environment : List (Bytes × Bytes)) :
    List Bytes → List (Bytes × Bytes) × List Bytes
  | [] => (environment, [])
  | ['-', 'i'] :: rest => changeVariables [] rest
  | ['-'] :: rest => changeVariables [] rest
  | ['-', 'u'] :: name :: rest => changeVariables (environment.filter fun e => e.1 != name) rest
  | word :: rest =>
    let name := word.takeWhile (· != '=')
    if name.length = word.length then (environment, word :: rest)
    else
      let value := word.drop (name.length + 1)
      let changed :=
        if (environment.lookup name).isSome then
          environment.map fun e => if e.1 = name then (name, value) else e
        else environment ++ [(name, value)]
      changeVariables changed rest

/-- Runs a command with other variables, or shows them. -/
def env : Program := fun i => do
  match changeVariables i.environment i.arguments with
  | (environment, []) => print i (variablesText environment)
  | (environment, name :: arguments) =>
    let e ← become name arguments environment
    i.complainOf (Format.quoted name) e
    return refusedStatus e

/-- Becomes the command in the arguments, or says something about it if that cannot be. -/
def becomeCommand (i : Invocation) (told : Bytes → Bytes) : List Bytes → Doing Nat
  | [] => do
    let _ ← i.misuse "missing operand"
    return 125
  | name :: arguments => do
    let e ← become name arguments i.environment
    i.complainOf (told name) e
    return refusedStatus e

def failedToRun (name : Bytes) : Bytes := "failed to run command ".toList ++ Format.quoted name

/-- Runs a command that a user who leaves does not end. -/
def nohup : Program := fun i => do
  Doing.ask (.dispose .hup .ignored)
  becomeCommand i failedToRun i.arguments

/-- Runs a command that others have precedence over, which makes no difference here. -/
def nice : Program := fun i => do
  match i.arguments with
  | [] => print i "0\n".toList
  | ['-', 'n'] :: _ :: rest => becomeCommand i Format.quoted rest
  | ('-' :: _) :: rest => becomeCommand i Format.quoted rest
  | words => becomeCommand i Format.quoted words

/-- Runs a command in a session of its own. -/
def setsid : Program := fun i => becomeCommand i ("failed to execute ".toList ++ ·) i.arguments

/-! ### Limits -/

/-- Which process is limited, how many streams it may have, and the command after these. -/
structure StreamLimit where
  pid : Option Nat
  streams : Nat
  command : List Bytes

/-- Reads the arguments; `pid` and `streams` are what they have given so far. -/
def readLimit (pid streams : Option Nat) : List Bytes → Option StreamLimit
  | ['-', 'p'] :: number :: rest => readPid number rest
  | word :: rest =>
    let (name, value) := (word.takeWhile (· != '='), word.dropWhile (· != '='))
    if name = "--nofile".toList then
      match natural? ((value.drop 1).takeWhile (· != ':')) with
      | some n => readLimit pid (some n) rest
      | none => none
    else if word = "--pid".toList then
      match rest with
      | number :: rest => readPid number rest
      | [] => none
    else if word.head? = some '-' then none
    else streams.map fun n => ⟨pid, n, word :: rest⟩
  | [] => streams.map fun n => ⟨pid, n, []⟩
where
  readPid (number : Bytes) (rest : List Bytes) : Option StreamLimit :=
    match natural? number with
    | some n => readLimit (some n) streams rest
    | none => none

/-- Bounds how many streams a process may have, which is the program itself if no other is named. -/
def prlimit : Program := fun i => do
  match readLimit none none i.arguments with
  | none => i.misuse "bad usage"
  | some l =>
    let own ← Doing.ask .ownPid
    match ← Doing.ask (.limit (l.pid.getD own) l.streams) with
    | some e =>
      i.complain ("failed to set the NOFILE resource limit: ".toList ++ e.description.toList)
      return 1
    | none => if l.command.isEmpty then return 0 else becomeCommand i failedToRun l.command

/-! ### Children -/

/-- The status that tells of an end. -/
def reported : ExitStatus → Nat
  | .code n => n.toNat
  | .signaled n => 128 + n.toNat
  | .unknown => 1

/-- Waits for the end of a child, however many others end. -/
def awaitChild (pid : Nat) (limit : Option Nat) : Nat → Doing (Option ExitStatus)
  | 0 => pure none
  | fuel + 1 => do
    match ← Doing.ask (.await false limit) with
    | .ended other status => if other = pid then return some status else awaitChild pid limit fuel
    | _ => return none

/-- Runs a command, and ends it when time is up. -/
def timeout : Program := fun i => do
  let signal? (name : Bytes) : Option Signal := (Signal.parse (Bytes.toText name)).toOption
  let (signal, words) :=
    match i.arguments with
    | ['-', 's'] :: name :: rest => (signal? name, rest)
    | ('-' :: 's' :: name) :: rest => (signal? name, rest)
    | words => (some .term, words)
  match words, signal with
  | _ :: _ :: _, none =>
    let _ ← i.misuse "invalid signal"
    return 125
  | span :: first :: command, some signal =>
    match span? span with
    | none =>
      let _ ← i.misuse ("invalid time interval '" ++ Bytes.toText span ++ "'")
      return 125
    | some nanos =>
      let child ← Doing.fork (becomeCommand i failedToRun (first :: command)).toActivity
      let limit := if nanos = 0 then none else some nanos
      match ← awaitChild child limit Doing.patience with
      | some (.signaled n) =>
        let own ← Doing.ask .ownPid
        let _ ← Doing.ask (.kill own (Signal.ofNumber? n))
        return 128 + n.toNat
      | some status => return reported status
      | none =>
        let _ ← Doing.ask (.kill child (some signal))
        let _ ← Doing.ask (.kill child (some .cont))
        if signal = .kill then
          let own ← Doing.ask .ownPid
          let _ ← Doing.ask (.kill own (some .kill))
        let _ ← awaitChild child none Doing.patience
        return 124
  | _, _ =>
    Doing.write 2 ("Try '".toList ++ i.name ++ " --help' for more information.\n".toList)
    return 125

namespace Batch

/-- Words between blanks, which quotes and backslashes protect. The word at hand is in reverse. -/
def split : Nat → Option Char → Option Bytes → Bytes → List Bytes
  | 0, _, _, _ => []
  | _ + 1, _, held, [] => (held.map List.reverse).toList
  | fuel + 1, some quote, held, c :: s =>
    if c = quote then split fuel none held s
    else split fuel (some quote) (some (c :: held.getD [])) s
  | fuel + 1, none, held, c :: s =>
    if Numeral.isSpace c then (held.map List.reverse).toList ++ split fuel none none s
    else if c = '\x27' ∨ c = '\x22' then split fuel (some c) (some (held.getD [])) s
    else
      match c, s with
      | '\\', d :: s => split fuel none (some (d :: held.getD [])) s
      | c, s => split fuel none (some (c :: held.getD [])) s

/-- Parts of a list with so many members each. -/
def parts (size : Nat) : Nat → List α → List (List α)
  | 0, _ => []
  | fuel + 1, members =>
    if members.isEmpty then [] else members.take size :: parts size fuel (members.drop size)

/-- Puts a text in the place of a mark. -/
def fill (mark text : Bytes) : Nat → Bytes → Bytes
  | 0, s => s
  | _ + 1, [] => []
  | fuel + 1, c :: s =>
    if mark.isPrefixOf (c :: s) then text ++ fill mark text fuel ((c :: s).drop mark.length)
    else c :: fill mark text fuel s

/-- Runs one command after the other. -/
def run (i : Invocation) : List (List Bytes) → Nat → Doing Nat
  | [], status => pure status
  | command :: rest, status => do
    let child ← Doing.fork (Doing.toActivity do
      let _ ← Doing.ask (.openFile 0 "/dev/null".toList .reading)
      let e ← become (command.headD []) (command.drop 1) i.environment
      i.complainOf (command.headD []) e
      return refusedStatus e)
    match (← awaitChild child none Doing.patience).map reported with
    | some 0 => run i rest status
    | some 127 => return 127
    | some 126 => return 126
    | some 255 =>
      i.complain (command.headD [] ++ ": exited with status 255; aborting".toList)
      return 124
    | some n =>
      if n > 128 then return 125
      else run i rest 123
    | none => return 1

end Batch

/-- Runs commands with arguments that are read. -/
def xargs : Program := fun i => do
  let text := ((← Doing.readAll 0 Doing.patience []).toOption).getD []
  let words := Batch.split (text.length + 1) none none text
  let whole (command : List Bytes) : List Bytes :=
    if command.isEmpty then ["echo".toList] else command
  let inParts (size : Nat) (command : List Bytes) : Doing Nat :=
    let groups := if words.isEmpty then [[]] else Batch.parts size (words.length + 1) words
    Batch.run i (groups.map fun g => whole command ++ g) 0
  match i.arguments with
  | ['-', 'n'] :: size :: command => inParts (max 1 ((natural? size).getD 1)) command
  | ('-' :: 'n' :: size) :: command => inParts (max 1 ((natural? size).getD 1)) command
  | ['-', 'r'] :: command => if words.isEmpty then return 0 else inParts words.length command
  | ['-', 'I'] :: mark :: command =>
    let lines := (blankFree text).filter fun l => !l.isEmpty
    Batch.run i (lines.map fun l => command.map fun w => Batch.fill mark l (w.length + 1) w) 0
  | command => inParts (max 1 words.length) command
where
  /-- Lines without the blanks before them. -/
  blankFree (text : Bytes) : List Bytes :=
    (linesOf text).map fun l => (l.filter (· != '\n')).dropWhile Numeral.isSpace

end Launcher.Utility

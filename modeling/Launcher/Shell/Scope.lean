import Launcher.Machine.Activity
import Launcher.Shell.Script
/-!
What a script sees and changes while it runs, and the monad in which a shell is written: it asks the
machine, changes the scope, and may leave what it is doing. -/
namespace Launcher.Shell

open Machine (Activity Call Doing)

structure Binding where
  /-- A name may be known before it has a value. -/
  value : Option Bytes
  /-- Programs that are started see it. -/
  exported : Bool
  /-- Never changed again. -/
  fixed : Bool
  deriving DecidableEq, Repr

/-- Processes that were started together. -/
structure Job where
  number : Nat
  /-- In the order of their start, with their ends. -/
  members : List (Nat × Option ExitStatus)
  /-- Somebody has asked for the end. -/
  asked : Bool
  deriving DecidableEq, Repr

def Job.isOver (j : Job) : Bool := j.members.all fun m => m.2.isSome

/-- The status of the last one. -/
def Job.status? (j : Job) : Option ExitStatus := j.members.getLast?.bind (·.2)

structure Scope where
  /-- The number of the process that the script belongs to. -/
  pid : Nat
  name : Bytes
  arguments : List Bytes
  bindings : List (Bytes × Binding)
  functions : List (Bytes × Script)
  /-- Texts that are read in the place of the first word of a command. -/
  aliases : List (Bytes × Bytes)
  /-- Texts that redirections read from, by number. -/
  documents : List (Nat × Word)
  nextDocument : Nat
  /-- The letters of the options that are on. -/
  options : List Char
  /-- By signal, or for the end of the script; an empty action ignores the signal. -/
  traps : List (Option Signal × Bytes)
  jobs : List Job
  /-- The last process that was left behind. -/
  lastBehind : Option Nat
  status : Nat
  /-- The status of the last script whose output was put in. -/
  outputStatus : Nat
  line : Nat
  /-- How many loops could be left. -/
  loops : Nat
  /-- Old bindings to go back to, for each function and command on the way. -/
  kept : List (List (Bytes × Option Binding))
  /-- The current directory as the script knows it. -/
  directory : Bytes
  /-- The status to end with if an action for a signal or for the end does not say. -/
  heldStatus : Option Nat
  /-- The command of the shell that complaints mention. -/
  command : Option Bytes
  /-- Which argument `getopts` looks at next, counted from one. -/
  optionIndex : Nat
  /-- Which letter of the argument before that it looks at next; zero if it is done with that. -/
  letter : Nat
  /-- How many streams are put aside. -/
  putAside : Nat
  /-- Which permissions new files do not have. -/
  mask : Nat

/-- Why a shell leaves what it is doing. -/
inductive Leaving where
  | exits
  /-- After a complaint. -/
  | fails
  | leavesLoop (levels : Nat) (goesOn : Bool)
  | returns
  deriving DecidableEq, Repr

/-- A part of a shell's activity. -/
def Act (α : Type) : Type := Scope → (Except Leaving α → Scope → Activity) → Activity

namespace Act

instance : Monad Act where
  pure a := fun s next => next (.ok a) s
  bind x f := fun s next =>
    x s fun result s =>
      match result with
      | .ok a => f a s next
      | .error e => next (.error e) s

instance : MonadStateOf Scope Act where
  get := fun s next => next (.ok s) s
  set s := fun _ next => next (.ok ()) s
  modifyGet f := fun s next =>
    let (a, s) := f s
    next (.ok a) s

instance : MonadExceptOf Leaving Act where
  throw e := fun s next => next (.error e) s
  tryCatch x handle := fun s next =>
    x s fun result s =>
      match result with
      | .ok a => next (.ok a) s
      | .error e => handle e s next

instance : MonadLift Doing Act where
  monadLift x := fun s next => x fun a => next (.ok a) s

/-- What the part comes to, whether it leaves or not. -/
def attempt (x : Act α) : Act (Except Leaving α) :=
  fun s next => x s fun result s => next (.ok result) s

/-- Goes on as the attempt ended. -/
def resume (result : Except Leaving α) : Act α := fun s next => next result s

def call (c : Call) : Act c.Answer := fun s next => .asks c fun answer => next (.ok answer) s

/-- Makes a child that goes on from the same scope. -/
def fork (child : Scope → Activity) : Act Nat :=
  fun s next => .forks (child s) fun pid => next (.ok pid) s

end Act

namespace Scope

/-! ### Bindings -/

def binding? (s : Scope) (name : Bytes) : Option Binding := s.bindings.lookup name

def value? (s : Scope) (name : Bytes) : Option Bytes := (s.binding? name).bind Binding.value

/-- The binding keeps its place, or comes last. -/
def putBinding (name : Bytes) (b : Binding) : List (Bytes × Binding) → List (Bytes × Binding)
  | [] => [(name, b)]
  | (n, old) :: rest => if n = name then (n, b) :: rest else (n, old) :: putBinding name b rest

def bind (s : Scope) (name : Bytes) (b : Binding) : Scope :=
  { s with bindings := putBinding name b s.bindings }

def unbind (s : Scope) (name : Bytes) : Scope :=
  { s with bindings := s.bindings.filter fun e => e.1 != name }

def hasOption (s : Scope) (letter : Char) : Bool := s.options.contains letter

/-- Gives a variable a value; it stays exported if it was. -/
def assign (s : Scope) (name value : Bytes) : Scope :=
  let old := (s.binding? name).getD ⟨none, false, false⟩
  s.bind name { old with value := some value, exported := old.exported || s.hasOption 'a' }

def isFixed (s : Scope) (name : Bytes) : Bool := (s.binding? name).any Binding.fixed

def setExported (s : Scope) (name : Bytes) : Scope :=
  s.bind name { (s.binding? name).getD ⟨none, false, false⟩ with exported := true }

def setFixed (s : Scope) (name : Bytes) : Scope :=
  s.bind name { (s.binding? name).getD ⟨none, false, false⟩ with fixed := true }

/-- Bindings are kept in so many groups. -/
def groupCount : Nat := 39

/-- The group in which a name is kept. -/
def group (name : Bytes) : Nat :=
  (name.foldl (fun total c => total + c.toNat) ((name.headD '\x00').toNat * 16)) % groupCount

/-- What a started program sees, group by group. -/
def environment (s : Scope) : List (Bytes × Bytes) :=
  let exported := s.bindings.filterMap fun (name, b) =>
    if b.exported then b.value.map fun value => (name, value) else none
  (List.range groupCount).flatMap fun g => exported.filter fun e => group e.1 == g

/-- Remembers the binding of a name, to go back to it with the innermost kept ones. -/
def keep (s : Scope) (name : Bytes) : Scope :=
  match s.kept with
  | [] => s
  | innermost :: rest =>
    if innermost.any fun k => k.1 == name then s
    else { s with kept := ((name, s.binding? name) :: innermost) :: rest }

/-- Goes back to the innermost kept bindings. -/
def goBack (s : Scope) : Scope :=
  match s.kept with
  | [] => s
  | innermost :: rest =>
    innermost.foldl
      (fun s (name, old) =>
        match old with
        | some b => s.bind name b
        | none => s.unbind name)
      { s with kept := rest }

/-! ### Field separators -/

def separatorName : Bytes := ['I', 'F', 'S']

def defaultSeparators : Bytes := [' ', '\t', '\n']

def separators (s : Scope) : Bytes := (s.value? separatorName).getD defaultSeparators

/-- What stands between arguments that are joined. -/
def joiner (s : Scope) : Bytes :=
  match s.value? separatorName with
  | none => [' ']
  | some separators => separators.take 1

/-- A script sets this variable to say which argument `getopts` is to look at next. -/
def optionIndexName : Bytes := ['O', 'P', 'T', 'I', 'N', 'D']

/-- Other arguments, of which `getopts` has seen none. -/
def withArguments (s : Scope) (arguments : List Bytes) : Scope :=
  { s with arguments, optionIndex := 1, letter := 0 }

/-! ### Traps -/

def trap? (s : Scope) (key : Option Signal) : Option Bytes := s.traps.lookup key

def setTrap (s : Scope) (key : Option Signal) (action : Option Bytes) : Scope :=
  { s with traps := (action.map (key, ·)).toList ++ s.traps.filter fun t => t.1 != key }

/-- Whether anything is to be done at a signal or at the end. -/
def hasTraps (s : Scope) : Bool := s.traps.any fun t => !t.2.isEmpty

/-- The status to end with if the script ends here. -/
def exitStatus (s : Scope) : Nat := s.heldStatus.getD s.status

/-! ### Parameters -/

def number (n : Nat) : Bytes := (toString n).toList

/-- Option letters in the order in which they are shown. -/
def optionLetters : List Char :=
  ['u', 'b', 'a', 'C', 'E', 'V', 'v', 'x', 's', 'n', 'm', 'i', 'I', 'f', 'e']

/-- The value of a parameter other than all arguments. -/
def parameter? (s : Scope) (name : Bytes) : Option Bytes :=
  match name with
  | ['?'] => some (number s.status)
  | ['$'] => some (number s.pid)
  | ['#'] => some (number s.arguments.length)
  | ['!'] => s.lastBehind.map number
  | ['-'] => some (optionLetters.filter s.options.contains)
  | _ =>
    if !name.isEmpty && name.all Char.isDigit then
      match name.foldl (fun n c => n * 10 + (c.toNat - '0'.toNat)) 0 with
      | 0 => some s.name
      | n + 1 => s.arguments[n]?
    else s.value? name

/-! ### Jobs -/

/-- A job with the number that is free, after jobs that nobody asks for any more are forgotten. -/
def addJob (s : Scope) : Nat × Scope :=
  let jobs := s.jobs.filter fun j => !(j.isOver && j.asked)
  let number := jobs.foldl (fun n j => max n (j.number + 1)) 1
  (number, { s with jobs := jobs ++ [⟨number, [], false⟩] })

def updateJob (s : Scope) (number : Nat) (f : Job → Job) : Scope :=
  { s with jobs := s.jobs.map fun j => if j.number = number then f j else j }

def job? (s : Scope) (number : Nat) : Option Job := s.jobs.find? fun j => j.number == number

def forgetJob (s : Scope) (number : Nat) : Scope :=
  { s with jobs := s.jobs.filter fun j => j.number != number }

/-- Notes the end of a process in the job that it belongs to. -/
def noteEnd (s : Scope) (pid : Nat) (status : ExitStatus) : Scope :=
  let note (m : Nat × Option ExitStatus) : Nat × Option ExitStatus :=
    if m.1 = pid ∧ m.2.isNone then (pid, some status) else m
  { s with jobs := s.jobs.map fun j => { j with members := j.members.map note } }

/-- The scope of a child, in which only ignored signals are remembered. -/
def ofChild (s : Scope) : Scope :=
  { s with traps := s.traps.filter fun t => t.2.isEmpty && t.1.isSome, jobs := [] }

end Scope

namespace Act

/-! ### Texts -/

def write (stream : Nat) (bytes : Bytes) : Act Unit := (Doing.write stream bytes : Doing Unit)

/-- Says what went wrong, and where. -/
def warn (text : Bytes) : Act Unit := do
  let s ← get
  let command := (s.command.map fun c => c ++ ": ".toList).getD []
  write 2 (s.name ++ s!": {s.line}: ".toList ++ command ++ text ++ ['\n'])

/-- Gives up after a complaint. -/
def fail (text : Bytes) : Act α := do
  warn text
  modify fun s => { s with status := 2 }
  throw .fails

/-- Writes what a command of the shell has to say, and gives its status. -/
def print (bytes : Bytes) : Act Nat := do
  if bytes.isEmpty then return 0
  else
    match ← call (.write 1 bytes) with
    | none => return 0
    | some _ =>
      warn (((← get).command.getD []) ++ ": I/O error".toList)
      return 1

def setStatus (status : Nat) : Act Unit := modify fun s => { s with status }

/-- Ends the script with the status that it has. -/
def leave : Act α := do
  modify fun s => { s with heldStatus := none }
  throw .exits

/-! ### Variables -/

/-- Gives a variable a value. Where `getopts` is to go on from is up to the script. -/
def setVariable (name value : Bytes) : Act Unit := do
  if (← get).isFixed name then fail (name ++ ": is read only".toList)
  else
    modify fun s =>
      let s := s.assign name value
      if name = Scope.optionIndexName then
        { s with optionIndex := max 1 ((String.ofList value).toNat?.getD 1), letter := 0 }
      else s

/-- Gives up unless the text is a name. -/
def requireName (name : Bytes) : Act Unit := do
  if isName name then pure () else fail (name ++ ": bad variable name".toList)

end Act
end Launcher.Shell

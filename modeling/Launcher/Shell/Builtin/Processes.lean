import Launcher.Shell.Builtin.Basic
/-!
Commands about processes and signals. -/
namespace Launcher.Shell.Builtin

/-! ### Signals -/

/-- The signal that a text names by its number or its name; zero stands for no signal. -/
def signal? (s : Bytes) : Option (Option Signal) :=
  if !s.isEmpty && s.all Char.isDigit then
    match natural? s with
    | some 0 => some none
    | some n => (Signal.ofNumber? n).map some
    | none => none
  else (Signal.all.find? fun x => x != .stkflt && x.stem.toList == s.map Char.toUpper).map some

/-- The same, with a name for the end of a script. -/
def trapKey? (s : Bytes) : Option (Option Signal) :=
  if s.map Char.toUpper = ['E', 'X', 'I', 'T'] then some none else signal? s

/-- What a signal is called in lists; one of them is only known by its number. -/
def signalName (s : Signal) : Bytes := (if s = .stkflt then "16" else s.stem).toList

def keyName (key : Option Signal) : Bytes := (key.map signalName).getD "EXIT".toList

/-- The actions that are set, as commands that set them. -/
def trapsText (s : Scope) : Bytes :=
  (none :: Signal.all.map some).flatMap fun key =>
    match s.trap? key with
    | some action => "trap -- ".toList ++ quote action ++ ' ' :: keyName key ++ ['\n']
    | none => []

/-- What a signal is to do to the process when it has this action. -/
def dispositionOf : Option Bytes → Machine.Disposition
  | none => .standard
  | some [] => .ignored
  | some _ => .caught

def setTraps (action : Option Bytes) : List Bytes → Act Nat
  | [] => pure 0
  | name :: rest => do
    match trapKey? name with
    | none =>
      Act.write 2 ("trap: ".toList ++ name ++ ": bad trap\n".toList)
      return 1
    | some key =>
      modify fun s => s.setTrap key action
      match key with
      | some signal => Act.call (.dispose signal (dispositionOf action))
      | none => pure ()
      setTraps action rest

def trap : Builtin := fun arguments => do
  let (_, words) ← flags "" arguments
  match words with
  | [] => Act.print (trapsText (← get))
  | [name] => setTraps none [name]
  | action :: names =>
    let isNumber := !action.isEmpty && action.all Char.isDigit && (signal? action).isSome
    if isNumber then setTraps none (action :: names)
    else setTraps (if action = ['-'] then none else some action) names

def killUsage : Bytes :=
  "Usage: kill [-s sigspec | -signum | -sigspec] [pid | job]... or\nkill -l [exitstatus]".toList

/-- The process that a text names, by its number or by its job. -/
def process? (s : Scope) : Bytes → Act (Option Nat)
  | '%' :: job => do
    let chosen :=
      match natural? job with
      | some n => s.job? n
      | none => s.jobs.getLast?
    match chosen.bind fun j => j.members.head? with
    | some m => return some m.1
    | none => Act.fail ("No such job: %".toList ++ job)
  | '-' :: group => do
    let _ ← number group
    return none
  | pid => do return some (← number pid)

def killAll (signal : Option Signal) : List Bytes → Act Nat
  | [] => pure 0
  | target :: rest => do
    let refusal ←
      match ← process? (← get) target with
      | some pid => Act.call (.kill pid signal)
      | none => pure (some .noProcess)
    let status ←
      match refusal with
      | some e => do
        Act.warn (e.description.toList ++ ['\n'])
        pure 1
      | none => pure 0
    let others ← killAll signal rest
    return max status others

/-- What the numbers after those of the common signals are called. -/
def laterName (n : Nat) : String :=
  if n < 34 then toString n
  else if n = 34 then "RTMIN"
  else if n < 50 then s!"RTMIN+{n - 34}"
  else if n < 64 then s!"RTMAX-{64 - n}"
  else "RTMAX"

def greatestSignal : Nat := 64

def numberName (n : Nat) : Bytes := ((Signal.ofNumber? n).map signalName).getD (laterName n).toList

def signalNames : List Bytes → Act Nat
  | [] =>
    Act.print ("0\n".toList ++
      (List.range greatestSignal).flatMap fun n => numberName (n + 1) ++ ['\n'])
  | status :: _ => do
    let n ← number status
    let n := if n > 128 then n - 128 else n
    if 0 < n ∧ n ≤ greatestSignal then Act.print (numberName n ++ ['\n'])
    else Act.fail ("invalid signal number or exit status: ".toList ++ status)

def kill : Builtin := fun arguments => do
  match arguments with
  | [] => Act.fail killUsage
  | ('-' :: name) :: rest =>
    match signal? name with
    | some signal => if rest.isEmpty then Act.fail killUsage else killAll signal rest
    | none =>
      let (given, words) ← flags "ls:" arguments
      let named ←
        match (given.filter fun f => f.1 == 's').getLast? with
        | none => pure none
        | some (_, text) =>
          match signal? text with
          | some signal => pure (some signal)
          | none => Act.fail ("invalid signal number or name: ".toList ++ text)
      if has given 'l' then
        if named.isSome && !words.isEmpty then Act.fail killUsage else signalNames words
      else if words.isEmpty then Act.fail killUsage
      else killAll (named.getD (some .term)) words
  | words => killAll (some .term) words

/-! ### Jobs -/

/-- Waits for the end of a child, or for a signal that a script catches. -/
def awaitChange (awaited : Job → Bool) : Act (Option Signal) := do
  match ← Act.call (.await true none) with
  | .ended pid status =>
    let jobs := (← get).jobs
    modify fun s => s.noteEnd pid status
    if jobs.any fun j => awaited j && j.members.any fun m => m.1 == pid then Running.report status
    return none
  | .interrupted signal => return some signal
  | _ => return none

/-- Waits until a job is over, or all jobs, or for a signal; gives the signal. -/
def awaitJobs (job : Option Nat) : Nat → Act (Option Signal)
  | 0 => pure none
  | fuel + 1 => do
    let isAwaited (j : Job) : Bool := job.all fun n => j.number == n
    if (← get).jobs.any fun j => isAwaited j && !j.isOver then
      match ← awaitChange fun j => job == some j.number with
      | some signal => return some signal
      | none => awaitJobs job fuel
    else return none

def afterSignal (signal : Signal) : Nat := 128 + signal.number

/-- Waits for one job and gives its status. -/
def waitFor (target : Bytes) : Act (Except Signal Nat) := do
  let s ← get
  let pid ← process? s target
  let isNamed (j : Job) : Bool :=
    (j.members.getLast?.map (·.1)) == pid || j.members.head?.map (·.1) == pid
  match s.jobs.find? isNamed with
  | none => return .ok 127
  | some job =>
    match ← awaitJobs (some job.number) Machine.Doing.patience with
    | some signal => return .error signal
    | none =>
      modify fun s => s.updateJob job.number fun j => { j with asked := true }
      let status := ((← get).job? job.number).bind Job.status?
      return .ok ((status.map Running.statusNumber).getD 127)

def waitForEach (status : Nat) : List Bytes → Act Nat
  | [] => pure status
  | target :: rest => do
    match ← waitFor target with
    | .error signal => return afterSignal signal
    | .ok status => waitForEach status rest

def wait : Builtin := fun arguments => do
  let (_, words) ← flags "" arguments
  if words.isEmpty then
    match ← awaitJobs none Machine.Doing.patience with
    | some signal => return afterSignal signal
    | none =>
      modify fun s => { s with jobs := s.jobs.map fun j => { j with asked := true } }
      return 0
  else waitForEach 127 words

/-- A job as it is shown, with the mark of the last job or of the one before it. -/
def jobText (mark : Char) (withPids : Bool) (j : Job) : Bytes :=
  let lead := '[' :: Scope.number j.number ++ [']', ' ', mark, ' ']
  let state :=
    match j.status? with
    | none => "Running"
    | some (.code 0) => "Done"
    | some (.code n) => "Done(" ++ toString n ++ ")"
    | some (.signaled n) => ((Signal.ofNumber? n).map Running.endText).getD ""
    | some .unknown => "Done"
  let row (lead : Bytes) : Bytes := lead ++ List.replicate (33 - lead.length) ' '
  let pid (m : Nat × Option ExitStatus) : Bytes := Scope.number m.1 ++ [' ']
  match j.members with
  | [] => []
  | first :: others =>
    if withPids then
      row (lead ++ pid first ++ state.toList) ++ ['\n']
        ++ others.flatMap fun m => row (List.replicate lead.length ' ' ++ pid m) ++ ['\n']
    else
      row (lead ++ state.toList) ++ (others.flatMap fun _ => " | ".toList) ++ ['\n']

/-- Looks for children that have ended. -/
def noteEnds : Nat → Act Unit
  | 0 => pure ()
  | fuel + 1 => do
    match ← Act.call (.await false (some 0)) with
    | .ended pid status =>
      modify fun s => s.noteEnd pid status
      noteEnds fuel
    | _ => pure ()

/-- Shows jobs, the latest first. Those that are over are forgotten. -/
def jobs : Builtin := fun arguments => do
  let (given, _) ← flags "lp" arguments
  noteEnds Machine.Doing.patience
  let rows := (← get).jobs.reverse.zipIdx.flatMap fun (j, place) =>
    if has given 'p' then (j.members.take 1).flatMap fun m => Scope.number m.1 ++ ['\n']
    else
      jobText (if place = 0 then '+' else if place = 1 then '-' else ' ') (has given 'l') j
  if !has given 'p' then
    modify fun s => { s with jobs := s.jobs.filter fun j => !j.isOver }
  Act.print rows

/-! ### Resources -/

def times : Builtin := fun _ =>
  let line := "0m0.000000s 0m0.000000s\n".toList
  Act.print (line ++ line)

/-- Permissions as letters, for the owner, the group and others. -/
def permissionText (permissions : Nat) : Bytes :=
  let letters (n : Nat) : Bytes :=
    (if n / 4 % 2 = 1 then ['r'] else []) ++ (if n / 2 % 2 = 1 then ['w'] else [])
      ++ if n % 2 = 1 then ['x'] else []
  "u=".toList ++ letters (permissions / 64 % 8) ++ ",g=".toList ++ letters (permissions / 8 % 8)
    ++ ",o=".toList ++ letters (permissions % 8)

/-- Changes permissions as a clause such as `g+w` says. -/
def changePermissions (permissions : Nat) (clause : Bytes) : Option Nat := do
  let whose := clause.takeWhile ['u', 'g', 'o', 'a'].contains
  let whose := if whose.isEmpty || whose.contains 'a' then ['u', 'g', 'o'] else whose
  match clause.dropWhile ['u', 'g', 'o', 'a'].contains with
  | [] => none
  | operator :: letters =>
    if ['+', '-', '='].contains operator && letters.all ['r', 'w', 'x'].contains then
      let bits :=
        (if letters.contains 'r' then 4 else 0) + (if letters.contains 'w' then 2 else 0)
          + if letters.contains 'x' then 1 else 0
      let change (old : Nat) : Nat :=
        match operator with
        | '+' => old ||| bits
        | '-' => old &&& (7 - bits)
        | _ => bits
      let part (c : Char) (old : Nat) : Nat := if whose.contains c then change old else old
      some (64 * part 'u' (permissions / 64 % 8) + 8 * part 'g' (permissions / 8 % 8)
        + part 'o' (permissions % 8))
    else none

def allPermissions : Nat := 511

def umask : Builtin := fun arguments => do
  let (given, words) ← flags "S" arguments
  let mask := (← get).mask
  match words with
  | [] =>
    if has given 'S' then Act.print (permissionText (allPermissions - mask) ++ ['\n'])
    else
      Act.print (Utility.atLeast 4 (Nat.toDigits 8 mask) ++ ['\n'])
  | mode :: _ =>
    if mode.head?.any Char.isDigit then
      let (n, rest) := Utility.Escape.number 8 mode.length 0 mode
      if !rest.isEmpty then notANumber mode
      else
        modify fun s => { s with mask := n % (allPermissions + 1) }
        return 0
    else
      let clauses := mode.splitOn ','
      match clauses.foldlM changePermissions (allPermissions - mask) with
      | none => Act.fail ("Illegal mode: ".toList ++ mode)
      | some permissions =>
        modify fun s => { s with mask := allPermissions - permissions }
        return 0

def ulimit : Builtin := fun arguments => do
  let (_, words) ← flags "HSatfdsmcnpvwlr" arguments
  if words.isEmpty then Act.print "unlimited\n".toList else return 0

end Launcher.Shell.Builtin

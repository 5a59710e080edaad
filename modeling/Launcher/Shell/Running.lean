import Launcher.Shell.Expansion
import Launcher.Shell.Grammar
/-!
What running a script is made of: texts that are read line by line, actions for signals, children
and their ends, scripts whose output is put in, and redirections. How one script is run is given as
a `Runner`, so that each of these stands on its own. -/
namespace Launcher.Shell

open Machine (Activity Access Doing firstOwnStream)

/-- How a script is run. -/
structure Mode where
  /-- Somebody looks at its status, so a failure does not end the shell. -/
  tested : Bool
  /-- Nothing comes after it in its process. -/
  final : Bool
  deriving DecidableEq, Repr

abbrev Runner := Mode → Script → Act Unit

namespace Running

/-! ### Texts -/

/-- Runs one line of commands after the other; there are at most `fuel` of them. -/
def runSource (run : Runner) (mode : Mode) : Nat → Source → Act Unit
  | 0, _ => pure ()
  | fuel + 1, source => do
    let s ← get
    let source :=
      { source with documents := [], nextDocument := s.nextDocument, aliases := s.aliases }
    match Reader.next source with
    | .nothing => pure ()
    | .problem p =>
      modify fun s => { s with line := p.line }
      Act.fail p.error.message.toList
    | .script script isLast rest =>
      modify fun s =>
        { s with documents := rest.documents ++ s.documents, nextDocument := rest.nextDocument }
      run { mode with final := mode.final && isLast } script
      runSource run mode fuel rest

def runText (run : Runner) (mode : Mode) (text : Bytes) : Act Unit := do
  runSource run mode (text.length + 2) (.ofText text 1 (← get).nextDocument)

/-! ### Signals -/

/-- Runs an action for a signal. The status is the same after it as before. -/
def runAction (run : Runner) (action : Bytes) : Act Unit := do
  let s ← get
  let status := s.heldStatus.getD s.status
  set { s with heldStatus := some status }
  let result ← Act.attempt (runText run ⟨false, false⟩ action)
  match result with
  | .ok _ => modify fun t => { t with status, heldStatus := s.heldStatus }
  | .error .exits => pure ()
  | .error _ => modify fun t => { t with heldStatus := s.heldStatus }
  Act.resume result

def runActions (run : Runner) : List Signal → Act Unit
  | [] => pure ()
  | signal :: rest => do
    match (← get).trap? (some signal) with
    | some action => if !action.isEmpty then runAction run action
    | none => pure ()
    runActions run rest

/-- Runs what is to be done at the signals that have come, in the order of their numbers. -/
def runTraps (run : Runner) : Act Unit := do
  let arrived ← Act.call .arrived
  runActions run (Signal.all.filter arrived.contains)

/-! ### The end -/

/-- The status to end with. The action for the end comes before it. -/
def finish (run : Runner) : Act Nat := do
  let s ← get
  match s.trap? none with
  | none => return s.status
  | some action =>
    set { s.setTrap none none with heldStatus := some s.status }
    match ← Act.attempt (runText run ⟨false, false⟩ action) with
    | .error .exits => return (← get).exitStatus
    | .error .fails => return (← get).status
    | _ => return s.status

/-- The activity of a shell process. -/
def life (run : Runner) (body : Act Unit) (s : Scope) : Activity :=
  body s fun result s =>
    let s :=
      match result with
      | .error .exits => { s with status := s.exitStatus, heldStatus := none }
      | _ => s
    finish run s fun result s => .ends ((result.toOption.getD s.status) % 256)

/-! ### Children -/

/-- How complaints call a signal that ended a process. -/
def endText : Signal → String
  | .hup => "Hangup"
  | .int => "Interrupt"
  | .quit => "Quit"
  | .ill => "Illegal instruction"
  | .trap => "Trace/breakpoint trap"
  | .abrt => "Aborted"
  | .bus => "Bus error"
  | .fpe => "Floating point exception"
  | .kill => "Killed"
  | .usr1 => "User defined signal 1"
  | .segv => "Segmentation fault"
  | .usr2 => "User defined signal 2"
  | .pipe => "Broken pipe"
  | .alrm => "Alarm clock"
  | .term => "Terminated"
  | .stkflt => "Stack fault"
  | .chld => "Child exited"
  | .cont => "Continued"
  | .stop => "Stopped (signal)"
  | .tstp => "Stopped"
  | .ttin => "Stopped (tty input)"
  | .ttou => "Stopped (tty output)"
  | .urg => "Urgent I/O condition"
  | .xcpu => "CPU time limit exceeded"
  | .xfsz => "File size limit exceeded"
  | .vtalrm => "Virtual timer expired"
  | .prof => "Profiling timer expired"
  | .winch => "Window changed"
  | .io => "I/O possible"
  | .pwr => "Power failure"
  | .sys => "Bad system call"

/-- The number by which a script knows how a process ended. -/
def statusNumber : ExitStatus → Nat
  | .code n => n.toNat
  | .signaled n => 128 + n.toNat
  | .unknown => 127

/-- Says which signal ended a process that somebody waits for; two are not worth it. -/
def report : ExitStatus → Act Unit
  | .signaled n =>
    match Signal.ofNumber? n with
    | some .int => pure ()
    | some .pipe => pure ()
    | some s => Act.write 2 (endText s ++ "\n").toList
    | none => pure ()
  | _ => pure ()

/-- Gives the standard dispositions back to signals that have actions here. -/
def resetSignals : List (Option Signal × Bytes) → Act Unit
  | [] => pure ()
  | (some signal, action) :: rest => do
    if !action.isEmpty then Act.call (.dispose signal .standard)
    resetSignals rest
  | (none, _) :: rest => resetSignals rest

/-- Streams that are put aside have numbers from this one on. -/
def firstPutAside : Nat := 20

/-- Makes a child that runs the body after it has arranged its streams, as a part of a job. -/
def spawn (run : Runner) (job : Nat) (behind : Bool) (arrange body : Act Unit) : Act Unit := do
  let s ← get
  let pid ← Act.fork fun s =>
    life run
      (do
        resetSignals s.traps
        if behind then
          Act.call (.dispose .int .ignored)
          Act.call (.dispose .quit .ignored)
        arrange
        Act.call (.closeFrom firstOwnStream)
        body)
      s.ofChild
  modify fun t =>
    { t.updateJob job fun j => { j with members := j.members ++ [(pid, none)] } with
      lastBehind := if behind then some pid else s.lastBehind }

def newJob : Act Nat := modifyGet fun s => s.addJob

/-- Waits for the end of a job, and gives its status. -/
def waitForJob (job : Nat) : Nat → Act Nat
  | 0 => pure 127
  | fuel + 1 => do
    match (← get).job? job with
    | none => return 127
    | some j =>
      if j.isOver then
        modify fun s => s.forgetJob job
        return ((j.status?).map statusNumber).getD 0
      else
        match ← Act.call (.await false none) with
        | .ended pid status =>
          modify fun s => s.noteEnd pid status
          if j.members.any fun m => m.1 == pid then report status
          waitForJob job fuel
        | _ => return 127

/-- Runs the body in a child and waits for it. -/
def runChild (run : Runner) (body : Act Unit) : Act Nat := do
  let job ← newJob
  spawn run job false (pure ()) body
  waitForJob job Doing.patience

/-- The input of a process that is left behind: nothing. -/
def closeInput : Act Unit := do
  let _ ← Act.call (.openFile 0 "/dev/null".toList .reading)

/-! ### Pipelines -/

/-- Where a pipe is held that a child writes to, and one that the next child reads from. -/
def heldSource : Nat := 11
def newSource : Nat := 12
def newSink : Nat := 13

/-- Starts the parts one after the other, each with a pipe to the next one. -/
def startParts (run : Runner) (mode : Mode) (job : Nat) (behind : Bool) (isFirst : Bool) :
    List Script → Act Unit
  | [] => pure ()
  | part :: rest => do
    let isLast := rest.isEmpty
    if !isLast then Act.call (.pipe newSource newSink)
    let arrange : Act Unit := do
      if isFirst then if behind then closeInput
      if !isFirst then
        let _ ← Act.call (.duplicate heldSource 0)
      if !isLast then
        let _ ← Act.call (.duplicate newSink 1)
    spawn run job behind arrange (run { mode with final := true } part)
    Act.call (.close heldSource)
    if !isLast then
      let _ ← Act.call (.duplicate newSource heldSource)
      Act.call (.close newSource)
      Act.call (.close newSink)
    startParts run mode job behind false rest

/-! ### Output that is put in -/

def captureSource : Nat := 14
def captureSink : Nat := 15

def trimLines (s : Bytes) : Bytes := (s.reverse.dropWhile (· == '\n')).reverse

/-- What a script writes, without the line ends at its end. -/
def capture (run : Runner) (script : Script) : Act Bytes := do
  match script with
  | .empty => return []
  | script =>
    let job ← newJob
    Act.call (.pipe captureSource captureSink)
    let arrange : Act Unit := do
      let _ ← Act.call (.duplicate captureSink 1)
    spawn run job false arrange (run ⟨false, true⟩ script)
    Act.call (.close captureSink)
    let read ← (Doing.readAll captureSource Doing.patience [] : Doing (Except Errno Bytes))
    Act.call (.close captureSource)
    let status ← waitForJob job Doing.patience
    modify fun s => { s with outputStatus := status }
    return trimLines ((read.toOption.getD []).filter (· != '\x00'))

def expansion (run : Runner) : Expansion := ⟨capture run⟩

/-! ### Redirections -/

/-- A redirection whose words have been expanded. -/
inductive Change where
  | openFile (stream : Nat) (path : Bytes) (kind : RedirectionKind)
  | duplicate (source target : Nat)
  | close (stream : Nat)
  | supply (stream : Nat) (word : Word)

def Change.stream : Change → Nat
  | .openFile stream _ _ => stream
  | .duplicate _ target => target
  | .close stream => stream
  | .supply stream _ => stream

/-- Expands the words of redirections; what should be the number of a stream may be none. -/
def changes (x : Expansion) : List Redirection → Act (List Change)
  | [] => pure []
  | .document stream number :: rest => do
    let word := ((← get).documents.lookup number).getD []
    return .supply stream word :: (← changes x rest)
  | .file stream .duplicate word :: rest => do
    match ← x.text word with
    | ['-'] => return .close stream :: (← changes x rest)
    | [d] =>
      if d.isDigit then return .duplicate (d.toNat - '0'.toNat) stream :: (← changes x rest)
      else Act.fail SyntaxError.badDescriptor.message.toList
    | _ => Act.fail SyntaxError.badDescriptor.message.toList
  | .file stream kind word :: rest => do
    let path ← x.text word
    return .openFile stream path kind :: (← changes x rest)

/-- The system's word for a refusal; an absent file is called what the attempt makes of it. -/
def refusalText (absent : String) (e : Errno) : Bytes :=
  (if e = .noEntry ∨ e = .notADirectory then absent
  else (e.entry?.map Errno.Entry.system).getD e.message).toList

def accessOf : RedirectionKind → Access
  | .input => .reading
  | .append => .appending
  | .both => .changing
  | _ => .replacing

/-- Whether there is a file of its own at the path, which must not be replaced. -/
def isOccupied (path : Bytes) : Act Bool := do
  match ← Act.call (.look path) with
  | .ok (.regular _ _) => return true
  | _ => return false

/-- Makes a change, or gives up. -/
def makeChange (x : Expansion) : Change → Act Unit
  | .close stream => Act.call (.close stream)
  | .duplicate source target => do
    match ← Act.call (.duplicate source target) with
    | none => pure ()
    | some e => Act.fail (Scope.number source ++ ": ".toList ++ refusalText "" e)
  | .supply stream word => do
    Act.call (.supply stream (← x.document word))
  | .openFile stream path kind => do
    let action := if kind = .input then "cannot open " else "cannot create "
    let absent := if kind = .input then "No such file" else "Directory nonexistent"
    if kind = .output then
      if (← get).hasOption 'C' then
        if ← isOccupied path then
          Act.fail (action.toList ++ path ++ ": File exists".toList)
    match ← Act.call (.openFile stream path (accessOf kind)) with
    | none => pure ()
    | some e => Act.fail (action.toList ++ path ++ ": ".toList ++ refusalText absent e)

/-- Streams that were put aside, and where; a stream that was closed is put nowhere. -/
abbrev PutAside := List (Nat × Option Nat)

def putAside (stream : Nat) (held : PutAside) : Act PutAside := do
  if held.any fun e => e.1 == stream then return held
  else
    let s ← get
    let place := firstPutAside + s.putAside
    match ← Act.call (.duplicate stream place) with
    | none =>
      set { s with putAside := s.putAside + 1 }
      return (stream, some place) :: held
    | some _ => return (stream, none) :: held

/-- Makes changes one after the other up to the first that cannot be made. The streams that they
change are put aside. -/
def makeChanges (x : Expansion) (held : PutAside) :
    List Change → Act (Except Leaving Unit × PutAside)
  | [] => pure (.ok (), held)
  | c :: rest => do
    let held ← putAside c.stream held
    match ← Act.attempt (makeChange x c) with
    | .error leaving => return (.error leaving, held)
    | .ok _ => makeChanges x held rest

/-- Brings streams back that were put aside. -/
def bringBack : PutAside → Act Unit
  | [] => pure ()
  | (stream, some place) :: rest => do
    let _ ← Act.call (.duplicate place stream)
    Act.call (.close place)
    modify fun s => { s with putAside := s.putAside - 1 }
    bringBack rest
  | (stream, none) :: rest => do
    Act.call (.close stream)
    bringBack rest

/-- Redirects for good, in a process of its own. -/
def redirectHere (run : Runner) (redirections : List Redirection) : Act Unit := do
  let x := expansion run
  for c in ← changes x redirections do
    makeChange x c

/-- Redirects while the body runs. Where that fails, the status says so, and the body does not
run. -/
def redirectWhile (run : Runner) (redirections : List Redirection) (body : Act Unit) :
    Act Bool := do
  if redirections.isEmpty then
    body
    return true
  else
    let x := expansion run
    let changes ← changes x redirections
    let (made, held) ← makeChanges x [] changes
    match made with
    | .error leaving =>
      bringBack held
      if leaving ≠ .fails then throw leaving
      Act.setStatus 2
      return false
    | .ok _ =>
      let result ← Act.attempt body
      bringBack held
      Act.resume result
      return true

end Running
end Launcher.Shell

import Launcher.Host.Programs
import Launcher.Machine.Process
import Launcher.Process.Error
import Launcher.Resolution.Launch
import Launcher.Utility.Programs
/-!
A machine on which launches are rehearsed: files, processes and a clock that only moves while
somebody waits. A process asks for one thing after another, and each takes a microsecond; it waits
where what it asks for is still to come. -/
namespace Launcher

structure Machine where
  /-- Nanoseconds since the beginning. -/
  clock : Nat
  environment : Environment
  world : Machine.World
  /-- In the order in which they were started. Those that nobody can ask for any more are gone. -/
  processes : List Machine.Process
  nextPid : Nat
  /-- Launched processes that have ended, in the order of their ends. -/
  ended : List Nat
  /-- How many streams the launcher may have. Other processes are content with what they may. -/
  streamLimit : Nat

namespace Machine

def stepNanos : Nat := 1000

/-- A new process, or one that becomes another program, is not ready at once. -/
def startNanos : Nat := 200000

/-- How long the launcher takes for a start. -/
def launchNanos : Nat := 20000

def firstPid : Nat := 1000

/-- The number of the launcher, as its processes see it. -/
def launcherPid : Nat := 1

def usualStreamLimit : Nat := 1024

/-- The files of a system without users: its programs, and a few files that are no programs. -/
def systemFiles : Host.File :=
  let users := Host.File.bytesOf "root:x:0:0:root:/root:/bin/sh\n"
  let programs := Host.File.directory (Utility.programs.map fun name => (name, .system name))
  .directory
    [("bin", programs), ("usr", .directory [("bin", programs)]), ("tmp", .directory []),
     ("etc", .directory [("passwd", .regular users false)]),
     ("dev", .directory [("null", .regular [] false), ("input", .directory [])])]

def ofFiles (e : Environment) (files : Host.File) : Machine where
  clock := 0
  environment := e
  world := .ofFiles files
  processes := []
  nextPid := firstPid
  ended := []
  streamLimit := usualStreamLimit

/-! ### Processes -/

def process? (m : Machine) (pid : Nat) : Option Process :=
  m.processes.find? fun p => p.pid == pid

def status? (m : Machine) (pid : Nat) : Option ExitStatus := (m.process? pid).bind Process.status

def isAlive (m : Machine) (pid : Nat) : Bool := (m.process? pid).any Process.isAlive

def put (m : Machine) (p : Process) : Machine :=
  { m with processes := m.processes.map fun q => if q.pid = p.pid then p else q }

def forget (m : Machine) (pid : Nat) : Machine :=
  { m with processes := m.processes.filter fun p => p.pid != pid }

def children (m : Machine) (pid : Nat) : List Process :=
  m.processes.filter fun p => p.parent == some pid

/-- Tells a process of a signal that it only looks at if it wants to. -/
def tell (m : Machine) (pid : Nat) (s : Signal) : Machine :=
  match m.process? pid with
  | some p => if p.isAlive && p.disposition s == .caught then m.put (p.note s) else m
  | none => m

/-- The end of a process. Its parent is told, if there is one to ask for the status; nobody asks for
the ends of its own children any more. -/
def finish (m : Machine) (p : Process) (status : ExitStatus) : Machine :=
  let m := m.put (p.close status)
  let m :=
    { m with processes := m.processes.filter fun q => q.isAlive || q.parent != some p.pid }
  match p.parent with
  | none => { m with ended := m.ended ++ [p.pid] }
  | some parent => if m.isAlive parent then m.tell parent .chld else m.forget p.pid

/-! ### Signals -/

def receive (m : Machine) (p : Process) (s : Signal) : Machine :=
  match Effect.of s (p.disposition s) with
  | .nothing => m
  | .catches => m.put (p.note s)
  | .stops => m.put { p with stopped := true }
  | .ends => m.finish p (.signaled s.number)

def receiveAll (m : Machine) (pid : Nat) : List Signal → Machine
  | [] => m
  | s :: rest =>
    match m.process? pid with
    | none => m
    | some p => if p.isAlive then receiveAll (m.receive p s) pid rest else m

/-- Why a process cannot be reached: it has ended and somebody knows, or it never was. -/
def refusal (m : Machine) (pid : Nat) : Option Errno :=
  if (m.process? pid).any fun p => p.isAlive || p.parent.isSome then none else some .noProcess

/-- Sends a signal. A stopped process receives all but two of them when it goes on. -/
def send (m : Machine) (pid : Nat) (s : Signal) : Machine :=
  match m.process? pid with
  | none => m
  | some p =>
    if !p.isAlive then m
    else if s = .cont then
      (m.put { p with stopped := false, held := [] }).receiveAll pid (p.held ++ [s])
    else if p.stopped && s != .kill then m.put { p with held := p.held ++ [s] }
    else m.receive p s

/-- Sends a signal, unless there is no such process any more. -/
def kill (m : Machine) (pid : Nat) (s : Signal) : Option Errno × Machine :=
  match m.refusal pid with
  | some e => (some e, m)
  | none => (none, m.send pid s)

/-! ### Starting -/

/-- The activity of a program that a file is started as. -/
def programOf (image : Host.Image) (argument0 : Bytes) (arguments : List Bytes)
    (environment : List (Bytes × Bytes)) : Activity :=
  Utility.run image.program ((image.mentioned.map Bytes.ofText).getD argument0)
    (image.arguments.map Bytes.ofText ++ arguments) environment

/-- Makes a process for the program of a launch. It does not run before time passes. -/
def spawn (m : Machine) (l : Launch) : Except OsError Nat × Machine :=
  let binary := l.program.binary
  if (binary :: l.arguments).any Host.File.hasNul then (.error .nulInCommand, m)
  else
    match Host.Image.find m.world.files m.environment binary [] with
    | .error e => (.error (.errno e), m)
    | .ok (_, image) =>
      let bindings := m.environment.bindings.map fun b => (Bytes.ofText b.1, Bytes.ofText b.2)
      let activity :=
        programOf image (.ofText binary) (l.arguments.map Bytes.ofText) bindings
      let directory := (Path.components m.environment.workingDirectory.toList).map String.ofList
      let process : Process :=
        ⟨m.nextPid, none, activity, directory, .initial, [], [], m.clock + startNanos, false, [],
          none⟩
      (.ok m.nextPid, { m with processes := m.processes ++ [process], nextPid := m.nextPid + 1 })

/-! ### Steps -/

def hasReader (m : Machine) (pipe : Nat) : Bool :=
  m.processes.any fun p => p.streams.leadTo (.source pipe)

def hasWriter (m : Machine) (pipe : Nat) : Bool :=
  m.processes.any fun p => p.streams.leadTo (.sink pipe)

/-- When a process goes on as things are, if it does not wait for another one. -/
def readyAt? (m : Machine) (p : Process) : Option Nat :=
  match p.activity with
  | .asks (.read stream _) _ =>
    match p.streams.lookup stream with
    | some (.source pipe) =>
      if ((m.world.pipes.lookup pipe).getD []).isEmpty && m.hasWriter pipe then none
      else some p.wakes
    | _ => some p.wakes
  | .asks (.await interruptible limit) _ =>
    let children := m.children p.pid
    if children.isEmpty || children.any (fun c => !c.isAlive)
        || (interruptible && !p.arrived.isEmpty) then some p.wakes
    else limit.map (p.wakes + ·)
  | _ => some p.wakes

/-- Reads from what a stream leads to. -/
def readFrom (w : World) (portion : Portion) : Option Target → Except Errno Bytes × World
  | some .nowhere => (.ok [], w)
  | some (.opened number) => w.readOpened number portion
  | some (.source pipe) =>
    let there := (w.pipes.lookup pipe).getD []
    let part := Portion.of portion there
    (.ok part, w.setPipe pipe (there.drop part.length))
  | _ => (.error .badDescriptor, w)

/-- Writes to what a stream leads to. -/
def writeTo (m : Machine) (bytes : Bytes) : Option Target → Refusal × World
  | some .nowhere => (none, m.world)
  | some (.shown stream) => (none, m.world.display stream bytes)
  | some (.opened number) => m.world.writeOpened number bytes
  | some (.sink pipe) =>
    if m.hasReader pipe then
      (none, m.world.setPipe pipe ((m.world.pipes.lookup pipe).getD [] ++ bytes))
    else (some .brokenPipe, m.world)
  | _ => (some .badDescriptor, m.world)

/-- Puts a file at a path or takes it away from there. -/
def storeAt (w : World) (directory : Place) (path : Bytes) (file : Option Host.File) :
    Refusal × World :=
  match Place.find w.files directory path with
  | .error e => (some e, w)
  | .ok place =>
    match file with
    | some f => (none, { w with files := w.files.insert place f })
    | none => (none, { w with files := w.files.remove place })

/-- What a process that waits for a child learns, and what is left then. -/
def awaited (m : Machine) (p : Process) (interruptible : Bool) : Waited × Machine :=
  let children := m.children p.pid
  match children.find? fun c => !c.isAlive with
  | some c => (.ended c.pid (c.status.getD .unknown), m.forget c.pid)
  | none =>
    if children.isEmpty then (.childless, m)
    else
      match if interruptible then p.arrived.head? else none with
      | some s => (.interrupted s, m)
      | none => (.late, m)

/-- Does what a process asks for. -/
def perform (m : Machine) (p : Process) (now : Nat) : Machine :=
  let goOn (m : Machine) (p : Process) (next : Activity) : Machine :=
    m.put { p with activity := next, wakes := now + stepNanos }
  match p.activity with
  | .ends status => m.finish p (.code (status % 256))
  | .forks child next =>
    let q : Process :=
      { p with
        pid := m.nextPid, parent := some p.pid, activity := child, arrived := []
        wakes := now + startNanos }
    let m := goOn m p (next m.nextPid)
    { m with processes := m.processes ++ [q], nextPid := m.nextPid + 1 }
  | .asks (.write stream bytes) next =>
    let (refusal, world) := m.writeTo bytes (p.streams.lookup stream)
    let m := goOn { m with world } p (next refusal)
    if refusal = some .brokenPipe then m.send p.pid .pipe else m
  | .asks (.read stream portion) next =>
    let (result, world) := readFrom m.world portion (p.streams.lookup stream)
    goOn { m with world } p (next result)
  | .asks (.openFile stream path access) next =>
    match m.world.openFile p.directory p.streams path access with
    | .error e => goOn m p (next (some e))
    | .ok (target, world) =>
      goOn { m with world } { p with streams := p.streams.connect stream target } (next none)
  | .asks (.supply stream bytes) next =>
    let (target, world) := m.world.add (.text bytes)
    goOn { m with world } { p with streams := p.streams.connect stream target } (next ())
  | .asks (.pipe source sink) next =>
    let (pipe, world) := m.world.addPipe
    let streams := (p.streams.connect source (.source pipe)).connect sink (.sink pipe)
    goOn { m with world } { p with streams } (next ())
  | .asks (.duplicate source target) next =>
    match p.streams.lookup source with
    | none => goOn m p (next (some .badDescriptor))
    | some t => goOn m { p with streams := p.streams.connect target t } (next none)
  | .asks (.close stream) next => goOn m { p with streams := p.streams.close stream } (next ())
  | .asks (.closeFrom stream) next => goOn m { p with streams := p.streams.below stream } (next ())
  | .asks .directory next => goOn m p (next p.directory.toBytes)
  | .asks (.enter path) next =>
    match Place.find m.world.files p.directory path, Place.file m.world.files p.directory path with
    | .ok place, .ok (.directory _) => goOn m { p with directory := place } (next none)
    | .ok _, .ok _ => goOn m p (next (some .notADirectory))
    | .error e, _ => goOn m p (next (some e))
    | _, .error e => goOn m p (next (some e))
  | .asks (.look path) next => goOn m p (next (Place.file m.world.files p.directory path))
  | .asks (.store path file) next =>
    let (refusal, world) := storeAt m.world p.directory path file
    goOn { m with world } p (next refusal)
  | .asks (.become path argument0 arguments environment) next =>
    match Host.Image.ofPath m.world.files (Bytes.toText p.directory.toBytes)
        Host.Image.greatestLooks (Bytes.toText path) [] with
    | .error e => goOn m p (next e)
    | .ok image =>
      m.put { p with
        activity := programOf image argument0 arguments environment
        streams := p.streams.below firstOwnStream
        dispositions := p.dispositions.filter fun e => e.2 == .ignored
        arrived := []
        wakes := now + startNanos }
  | .asks (.kill pid signal) next =>
    match m.refusal pid with
    | some e => goOn m p (next (some e))
    | none =>
      let m := goOn m p (next none)
      match signal with
      | some s => m.send pid s
      | none => m
  | .asks (.dispose s d) next => goOn m (p.dispose s d) (next ())
  | .asks (.limit pid streams) next =>
    if pid = launcherPid then goOn { m with streamLimit := streams } p (next none)
    else goOn m p (next (m.refusal pid))
  | .asks .arrived next => goOn m { p with arrived := [] } (next p.arrived)
  | .asks (.await interruptible _) next =>
    let (result, m) := m.awaited p interruptible
    goOn m p (next result)
  | .asks (.pass nanos) next => m.put { p with activity := next (), wakes := now + nanos }
  | .asks .ownPid next => goOn m p (next p.pid)
  | .asks .parentPid next => goOn m p (next (p.parent.getD launcherPid))

/-- The process that goes on first, and when. -/
def first? (m : Machine) : Option (Process × Nat) :=
  (m.processes.filter fun p => p.isAlive && !p.stopped).foldl
    (fun best p =>
      match best, m.readyAt? p with
      | _, none => best
      | none, some t => some (p, t)
      | some b, some t => if t < b.2 then some (p, t) else best) none

/-- One step of the process that goes on first, if that is not after the limit. -/
def step? (m : Machine) (limit : Option Nat) : Option Machine :=
  match m.first? with
  | none => none
  | some (p, time) =>
    if limit.any fun t => decide (t < time) then none
    else
      let now := max m.clock time
      some ({ m with clock := now }.perform p now)

/-- Lets time pass until the condition holds or the limit is reached; `fuel` bounds the steps. -/
def runUntil (done : Machine → Bool) (limit : Option Nat) : Nat → Machine → Machine
  | 0, m => m
  | fuel + 1, m =>
    if done m then m
    else
      match m.step? limit with
      | some m => runUntil done limit fuel m
      | none => { m with clock := max m.clock (limit.getD m.clock) }

/-- More steps than any rehearsal takes. -/
def patience : Nat := 10000000

/-- Waits for the end of a process. -/
def awaitEnd (m : Machine) (pid : Nat) : Machine :=
  m.runUntil (fun m => (m.status? pid).isSome) none patience

/-- Lets a span of time pass. -/
def pass (m : Machine) (nanos : Nat) : Machine :=
  m.runUntil (fun _ => false) (some (m.clock + nanos)) patience

/-- Whether any process could still show something. -/
def isShowing (m : Machine) : Bool :=
  m.processes.any fun p =>
    p.isAlive && (p.streams.leadTo (.shown .stdout) || p.streams.leadTo (.shown .stderr))

/-- A reader of what is shown does not wait any longer. -/
def longestReading : Nat := Nat.pow 10 11

/-- Lets time pass until nothing more will be shown, as somebody does who reads to the end. -/
def readToEnd (m : Machine) : Machine :=
  m.runUntil (fun m => !m.isShowing) (some (m.clock + longestReading)) patience

/-- Shows a text of the launcher itself. -/
def display (m : Machine) (stream : Stream) (text : String) : Machine :=
  { m with world := m.world.display stream (.ofText text) }

end Machine
end Launcher

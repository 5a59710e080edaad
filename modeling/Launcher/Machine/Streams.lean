import Launcher.Host.Stream
import Launcher.Machine.Activity
import Launcher.Machine.Place
/-!
What processes read and write: files, texts and pipes. Opening one gives it a number; streams that
lead to the same number share the position. -/
namespace Launcher.Machine

/-- What a stream leads to. -/
inductive Target where
  /-- Takes everything and has nothing. -/
  | nowhere
  | shown (stream : Stream)
  | opened (number : Nat)
  | source (pipe : Nat)
  | sink (pipe : Nat)
  deriving DecidableEq, Repr

/-- The streams of a process by number. -/
abbrev Streams := List (Nat × Target)

namespace Streams

def connect (streams : Streams) (stream : Nat) (target : Target) : Streams :=
  (stream, target) :: streams.filter fun e => e.1 != stream

def close (streams : Streams) (stream : Nat) : Streams := streams.filter fun e => e.1 != stream

def below (streams : Streams) (limit : Nat) : Streams := streams.filter fun e => e.1 < limit

def leadTo (streams : Streams) (target : Target) : Bool := streams.any fun e => e.2 == target

/-- The streams that a launched program begins with: it reads nothing, and what it writes is
shown. -/
def initial : Streams := [(0, .nowhere), (1, .shown .stdout), (2, .shown .stderr)]

end Streams

/-- So much of what is there. -/
def Portion.of : Portion → Bytes → Bytes
  | .bytes n, s => s.take n
  | .line, s =>
    let line := s.takeWhile (· != '\n')
    s.take (line.length + 1)

/-- Something that has been opened. -/
inductive Opened where
  | file (place : Place) (access : Access) (position : Nat)
  | text (rest : Bytes)

/-- What all processes share. -/
structure World where
  files : Host.File
  /-- What has been written to be shown, the latest first. -/
  shown : List (Stream × Bytes)
  opened : List (Nat × Opened)
  /-- What has been written to a pipe and not been read. -/
  pipes : List (Nat × Bytes)
  nextNumber : Nat

namespace World

def ofFiles (files : Host.File) : World := ⟨files, [], [], [], 0⟩

def display (w : World) (stream : Stream) (bytes : Bytes) : World :=
  { w with shown := (stream, bytes) :: w.shown }

/-- All that has been written to a stream to be shown. -/
def text (w : World) (stream : Stream) : String :=
  Bytes.toText ((w.shown.filter fun e => e.1 == stream).reverse.flatMap fun e => e.2)

/-! ### Opening -/

def add (w : World) (o : Opened) : Target × World :=
  (.opened w.nextNumber,
    { w with opened := (w.nextNumber, o) :: w.opened, nextNumber := w.nextNumber + 1 })

def setOpened (w : World) (number : Nat) (o : Opened) : World :=
  { w with opened := w.opened.map fun e => if e.1 = number then (number, o) else e }

def setPipe (w : World) (pipe : Nat) (bytes : Bytes) : World :=
  { w with pipes := w.pipes.map fun e => if e.1 = pipe then (pipe, bytes) else e }

/-- A new pipe and its number. -/
def addPipe (w : World) : Nat × World :=
  (w.nextNumber, { w with pipes := (w.nextNumber, []) :: w.pipes, nextNumber := w.nextNumber + 1 })

def standardStreams : List (String × Nat) := [("stdin", 0), ("stdout", 1), ("stderr", 2)]

/-- The number of a stream that a place stands for. -/
def streamOf? : Place → Option Nat
  | ["dev", name] => standardStreams.lookup name
  | ["dev", "fd", n] => n.toNat?
  | _ => none

/-- Opens a file for a process that has the given streams. -/
def openFile (w : World) (directory : Place) (streams : Streams) (path : Bytes) (access : Access) :
    Except Errno (Target × World) :=
  match Place.find w.files directory path with
  | .error e => .error e
  | .ok place =>
    if place = ["dev", "null"] then .ok (.nowhere, w)
    else
      match streamOf? place with
      | some n =>
        match streams.lookup n with
        | some target => .ok (target, w)
        | none => .error .noEntry
      | none =>
        let opened : Opened := .file place access 0
        match w.files.below? place, access with
        | none, .reading => .error .noEntry
        | some _, .reading => .ok (w.add opened)
        | some (.directory _), _ => .error .isADirectory
        | some (.regular _ executable), .replacing =>
          .ok ({ w with files := w.files.insert place (.regular [] executable) }.add opened)
        | some _, _ => .ok (w.add opened)
        | none, _ =>
          if Path.endsWithSlash path then .error .isADirectory
          else .ok ({ w with files := w.files.insert place (.regular [] false) }.add opened)

/-! ### Reading and writing -/

def contentOf : Host.File → Except Errno (List UInt8)
  | .regular bytes _ => .ok bytes
  | .system _ => .ok []
  | .directory _ => .error .isADirectory

/-- What is read from something opened, which may be nothing at its end. -/
def readOpened (w : World) (number : Nat) (portion : Portion) : Except Errno Bytes × World :=
  match w.opened.lookup number with
  | some (.text rest) =>
    let part := Portion.of portion rest
    (.ok part, w.setOpened number (.text (rest.drop part.length)))
  | some (.file place access position) =>
    if access = .replacing ∨ access = .appending then (.error .badDescriptor, w)
    else
      match (w.files.below? place).map contentOf with
      | none => (.ok [], w)
      | some (.error e) => (.error e, w)
      | some (.ok content) =>
        let part := Portion.of portion (Bytes.ofOctets (content.drop position))
        (.ok part, w.setOpened number (.file place access (position + part.length)))
  | none => (.error .badDescriptor, w)

/-- Content with some bytes from a position on replaced; a gap is filled with zeros. -/
def overwrite (content : List UInt8) (position : Nat) (bytes : List UInt8) : List UInt8 :=
  content.take position ++ List.replicate (position - content.length) 0 ++ bytes
    ++ content.drop (position + bytes.length)

def writeOpened (w : World) (number : Nat) (bytes : Bytes) : Refusal × World :=
  match w.opened.lookup number with
  | some (.file place access position) =>
    match access, w.files.below? place with
    | .reading, _ => (some .badDescriptor, w)
    | _, some (.regular content executable) =>
      let position := if access = .appending then content.length else position
      let content := overwrite content position bytes.toOctets
      let w := { w with files := w.files.insert place (.regular content executable) }
      (none, w.setOpened number (.file place access (position + bytes.length)))
    | _, _ => (none, w)
  | _ => (some .badDescriptor, w)

end World
end Launcher.Machine

import Launcher.Host.OsError
import Launcher.Path.Basic
/-!
A tree of files, and how paths are found in it. -/
namespace Launcher.Host

inductive File where
  | regular (bytes : List UInt8) (executable : Bool)
  /-- A program that belongs to the system. -/
  | system (name : String)
  | directory (entries : List (String × File))
  deriving Inhabited

namespace File

def isDirectory : File → Bool
  | .directory _ => true
  | _ => false

def bytesOf (text : String) : List UInt8 := text.toUTF8.toList

def text? (bytes : List UInt8) : Option String := String.fromUTF8? ⟨bytes.toArray⟩

/-- Puts a file at a path below the directory; directories on the way are made. -/
def insert (tree : File) (path : List String) (file : File) : File :=
  match path with
  | [] => file
  | name :: rest =>
    match tree with
    | .directory entries =>
      let below := (entries.lookup name).getD (.directory [])
      .directory ((name, below.insert rest file) :: entries.filter fun e => e.1 != name)
    | other => other

/-- The file at names below the directory. -/
def below? (tree : File) : List String → Option File
  | [] => some tree
  | name :: rest =>
    match tree with
    | .directory entries => (entries.lookup name).bind fun f => f.below? rest
    | _ => none

/-- Takes a file away from below the directory. -/
def remove (tree : File) (path : List String) : File :=
  match path, tree with
  | [name], .directory entries => .directory (entries.filter fun e => e.1 != name)
  | name :: rest, .directory entries =>
    match entries.lookup name with
    | some below =>
      .directory ((name, below.remove rest) :: entries.filter fun e => e.1 != name)
    | none => tree
  | _, other => other

/-- Goes along the segments from a directory whose ancestors are known, the nearest first. -/
def walk (ancestors : List File) (here : File) : List (List Char) → Except Errno File
  | [] => .ok here
  | segment :: rest =>
    match here with
    | .directory entries =>
      if Path.isVoid segment then walk ancestors here rest
      else if segment = ['.', '.'] then
        match ancestors with
        | [] => walk [] here rest
        | parent :: older => walk older parent rest
      else if (String.ofList segment).utf8ByteSize > 255 then .error .nameTooLong
      else
        match entries.lookup (String.ofList segment) with
        | none => .error .noEntry
        | some file => walk (here :: ancestors) file rest
    | _ => .error .notADirectory

/-- The file at a path, which is relative to the working directory unless it begins with a slash. -/
def find (tree : File) (workingDirectory path : String) : Except Errno File :=
  if path.isEmpty then .error .noEntry
  else if path.utf8ByteSize ≥ 4096 then .error .nameTooLong
  else if Path.isAbsolute path.toList then walk [] tree (Path.segments path.toList)
  else walk [] tree (Path.segments workingDirectory.toList ++ Path.segments path.toList)

def hasNul (s : String) : Bool := s.toList.contains '\x00'

/-- The text of a file. -/
def readText (tree : File) (workingDirectory path : String) : Except OsError String :=
  if hasNul path then .error .nulInPath
  else
    match tree.find workingDirectory path with
    | .error e => .error (.errno e)
    | .ok (.directory _) => .error (.errno .isADirectory)
    | .ok (.system _) => .error .notUtf8
    | .ok (.regular bytes _) =>
      match text? bytes with
      | some text => .ok text
      | none => .error .notUtf8

/-- The names in a directory in their order, or none if there is no such directory. -/
def names (tree : File) (workingDirectory path : String) : List String :=
  if hasNul path then []
  else
    match tree.find workingDirectory path with
    | .ok (.directory entries) => (entries.map (·.1)).mergeSort fun a b => decide (a ≤ b)
    | _ => []

end File
end Launcher.Host

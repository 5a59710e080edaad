import Launcher.Environment
import Launcher.Host.Files
/-!
How the file of a program is found, and what starting it means: a program of the system runs, and a
script is handed to the interpreter that its first line names. -/
namespace Launcher.Host

/-- A program of the system and the arguments it gets. -/
structure Image where
  program : String
  /-- The path by which a script mentions the program; none if the program is started itself. -/
  mentioned : Option String
  arguments : List String
  deriving DecidableEq, Repr

namespace Image

/-! ### The first line of a script -/

/-- So much of a file decides how it is started. -/
def headLength : Nat := 256

/-- The head of a file; what is missing in a short one counts as zeros. -/
def head (bytes : List UInt8) : List UInt8 :=
  let start := bytes.take headLength
  start ++ List.replicate (headLength - start.length) 0

def isSpaceByte (b : UInt8) : Bool := b == 0x20 || b == 0x09

def endsName (b : UInt8) : Bool := isSpaceByte b || b == 0

def dropSpaces (s : List UInt8) : List UInt8 := s.dropWhile isSpaceByte

def trimEnd (s : List UInt8) : List UInt8 := (dropSpaces s.reverse).reverse

/-- What the first line says, from the head without its mark. A line that goes on beyond the head
must have the whole name in it; arguments are cut off. -/
def firstLine? (head : List UInt8) : Option (List UInt8) :=
  let line := head.takeWhile fun b => b != 0x0a && b != 0
  if (head.drop line.length).head? = some 0x0a then some (trimEnd line)
  else if (dropSpaces head).any endsName then some (trimEnd head.dropLast)
  else none

/-- The interpreter in the first line of a script, and the argument that it gets first. -/
def interpreter? (bytes : List UInt8) : Option (String × List String) :=
  match head bytes with
  | 0x23 :: 0x21 :: rest =>
    (firstLine? rest).bind fun line =>
      let named := dropSpaces line
      let name := named.takeWhile fun b => !endsName b
      let text (s : List UInt8) := (File.text? s).getD ""
      match named, named.drop name.length with
      | [], _ => none
      | _, b :: after =>
        let argument := (dropSpaces after).takeWhile (· != 0)
        some (text name, if isSpaceByte b then [text argument] else [])
      | _, [] => some (text name, [])
  | _ => none

/-! ### Starting -/

/-- What the file at a path is started as. Interpreters may be scripts themselves, but only so many
files are looked into. -/
def ofPath (tree : File) (directory : String) (looks : Nat) (path : String)
    (arguments : List String) : Except Errno Image :=
  match tree.find directory path, looks with
  | .error e, _ => .error e
  | .ok (.directory _), _ => .error .accessDenied
  | .ok (.regular _ false), _ => .error .accessDenied
  | .ok _, 0 => .error .tooManyLinks
  | .ok (.system name), _ => .ok ⟨name, none, arguments⟩
  | .ok (.regular bytes true), looks + 1 =>
    match interpreter? bytes with
    | none => .error .execFormat
    | some (interpreter, first) =>
      (ofPath tree directory looks interpreter (first ++ path :: arguments)).map fun image =>
        { image with mentioned := some (image.mentioned.getD interpreter) }

def greatestLooks : Nat := 6

def splitColons : List Char → List (List Char)
  | [] => [[]]
  | c :: s =>
    if c = ':' then [] :: splitColons s
    else
      match splitColons s with
      | [] => [[c]]
      | p :: ps => (c :: p) :: ps

/-- The directories in which programs without a slash in their names are looked for. -/
def searchPath (e : Environment) : List String :=
  (splitColons ((e.get? "PATH").getD "/bin:/usr/bin").toList).map String.ofList

/-- Goes through the directories. A refusal of access counts only if nothing else is found, and an
absent file not at all. -/
def search (tree : File) (directory name : String) (arguments : List String) (refused : Bool) :
    List String → Except Errno (String × Image)
  | [] => .error (if refused then .accessDenied else .noEntry)
  | place :: rest =>
    let path := if place.isEmpty then name else place ++ "/" ++ name
    match ofPath tree directory greatestLooks path arguments with
    | .ok image => .ok (path, image)
    | .error e =>
      if e = .accessDenied then search tree directory name arguments true rest
      else if e = .noEntry ∨ e = .notADirectory then
        search tree directory name arguments refused rest
      else .error e

/-- The path of a program and what it is started as. -/
def find (tree : File) (e : Environment) (name : String) (arguments : List String) :
    Except Errno (String × Image) :=
  if name.toList.contains '/' then
    (ofPath tree e.workingDirectory greatestLooks name arguments).map fun image => (name, image)
  else if name.isEmpty then .error .noEntry
  else search tree e.workingDirectory name arguments false (searchPath e)

end Image
end Launcher.Host

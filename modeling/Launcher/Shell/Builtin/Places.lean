import Launcher.Machine.Search
import Launcher.Shell.Builtin.Basic
/-!
Commands about the current directory, and the search for programs. -/
namespace Launcher.Shell.Builtin

/-! ### The current directory -/

def directoryName : Bytes := ['P', 'W', 'D']
def oldDirectoryName : Bytes := ['O', 'L', 'D', 'P', 'W', 'D']

/-- A path seen from a directory, without segments that stand for nothing and with two dots carried
out. Two slashes in front are kept. -/
def plainPath (directory path : Bytes) : Bytes :=
  let whole := Path.join directory path
  let names := (Path.components whole).foldl
    (fun held name => if name = ['.', '.'] then held.dropLast else held ++ [name]) []
  let isDouble := whole.take 2 == ['/', '/'] && (whole.drop 2).head? != some '/'
  (if isDouble then ['/', '/'] else ['/']) ++ Path.joinSegments names

/-- Goes to a directory, if that is possible. -/
def goTo (path : Bytes) : Act Bool := do
  let s ← get
  let new := plainPath s.directory path
  match ← Act.call (.enter new) with
  | some _ => return false
  | none =>
    Act.setVariable oldDirectoryName s.directory
    Act.setVariable directoryName new
    modify fun s =>
      { (s.setExported oldDirectoryName).setExported directoryName with directory := new }
    return true

/-- Where a path is looked for: where it says, or below the directories of a variable. -/
def startsHere (path : Bytes) : Bool :=
  match Path.segments path with
  | first :: _ => first.isEmpty || first == ['.'] || first == ['.', '.']
  | [] => true

/-- The first directory that is there. -/
def firstDirectory : List Bytes → Act (Option Bytes)
  | [] => pure none
  | path :: rest => do
    match ← Act.call (.look path) with
    | .ok (.directory _) => return some path
    | _ => firstDirectory rest

def cd : Builtin := fun arguments => do
  let (_, words) ← flags "LP" arguments
  let s ← get
  let target :=
    match words with
    | [] => (s.value? ['H', 'O', 'M', 'E']).getD []
    | ['-'] :: _ => (s.value? oldDirectoryName).getD []
    | path :: _ => path
  let path := if target.isEmpty then ['.'] else target
  let search := (s.value? "CDPATH".toList).map Host.Image.splitColons
  let bases := if startsHere path then [] else search.getD []
  let found ← firstDirectory (bases.map fun base => Path.join base path)
  let showing := words.head? == some ['-'] || found.any fun p => p != path
  if ← goTo (found.getD path) then
    if showing then Act.print ((← get).directory ++ ['\n']) else return 0
  else Act.fail ("can't cd to ".toList ++ target)

def pwd : Builtin := fun arguments => do
  let _ ← flags "LP" arguments
  Act.print ((← get).directory ++ ['\n'])

/-! ### Programs -/

def searchName : Bytes := ['P', 'A', 'T', 'H']

/-- What is said about a program that cannot be started. -/
def startRefusal (e : Errno) : Bytes :=
  if Machine.isAbsence e then "not found".toList else e.description.toList

def startStatus (e : Errno) : Nat :=
  if Machine.isAbsence e ∨ e = .nameTooLong ∨ e = .tooManyLinks then 127 else 126

/-- The directories in which programs are looked for. -/
def search : Act Bytes := do return ((← get).value? searchName).getD []

def findProgram (search name : Bytes) : Act (Except Errno Bytes) :=
  (Machine.Doing.firstFile .noEntry (Machine.candidates search name) : Machine.Doing _)

/-- Becomes a program with the variables that it is to see. -/
def become (name : Bytes) (arguments : List Bytes) (paths : List Bytes) : Act Errno := do
  (Machine.Doing.become name arguments (← get).environment .noEntry paths : Machine.Doing _)

end Launcher.Shell.Builtin

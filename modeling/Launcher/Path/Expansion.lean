import Launcher.Path.Basic
import Launcher.Environment
import Launcher.Text.Alphanumeric
/-!
Variables and the home directory in written paths, and paths anchored at a directory. Variables are
`$NAME`, `${NAME}` and `${NAME:-default}`; two dollars stand for one, and a dollar before anything
else for itself. -/
namespace Launcher

inductive PathError where
  | configDirectoryNotFound
  | expansion (path key : String)
  | absolute (path : String)
  deriving DecidableEq, Repr

def PathError.message : PathError → String
  | .configDirectoryNotFound => "Could not find system config directory."
  | .expansion path key =>
    s!"Could not expand path '{path}': error looking key '{key}' up: environment variable not found"
  | .absolute path => s!"Could not make '{path}' absolute: cannot make an empty path absolute"

namespace Path

/-- A part of a written path. -/
inductive Piece where
  | char (c : Char)
  | variable (name : List Char) (default : Option (List Char))
  deriving DecidableEq, Repr

def isNameChar (c : Char) : Bool := Text.isAlphanumeric c || c == '_'

/-- What stands before and after the first occurrence of the character. -/
def cutAt (stop : Char) : List Char → Option (List Char × List Char)
  | [] => none
  | c :: s =>
    if c = stop then some ([], s)
    else (cutAt stop s).map fun (before, after) => (c :: before, after)

theorem length_of_cutAt {stop : Char} {s before after : List Char}
    (h : cutAt stop s = some (before, after)) : after.length < s.length := by
  induction s generalizing before with
  | nil => simp [cutAt] at h
  | cons c s ih =>
    simp only [cutAt] at h
    split at h
    · simp only [Option.some.injEq, Prod.mk.injEq] at h
      simp [h.2]
    · obtain ⟨⟨b, a⟩, hb, heq⟩ := Option.map_eq_some_iff.1 h
      simp only [Prod.mk.injEq] at heq
      have := ih (heq.2 ▸ hb)
      simp only [List.length_cons]
      omega

/-- What stands before and after the first `:-`. -/
def cutDefault : List Char → Option (List Char × List Char)
  | [] => none
  | ':' :: '-' :: s => some ([], s)
  | c :: s => (cutDefault s).map fun (before, after) => (c :: before, after)

/-- What stands between braces. A default needs a name before it; without one, all of the text is
the name. -/
def braced (inside : List Char) : Piece :=
  match cutDefault inside with
  | some (c :: name, default) => .variable (c :: name) (some default)
  | _ => .variable inside none

/-- The parts of a written path. A brace that is never closed is text. -/
def pieces : List Char → List Piece
  | [] => []
  | '$' :: '$' :: s => .char '$' :: pieces s
  | '$' :: '\x7b' :: s =>
    match _h : cutAt '\x7d' s with
    | some (inside, after) => braced inside :: pieces after
    | none => .char '$' :: .char '\x7b' :: pieces s
  | '$' :: s =>
    if (s.takeWhile isNameChar).isEmpty then .char '$' :: pieces s
    else .variable (s.takeWhile isNameChar) none :: pieces (s.dropWhile isNameChar)
  | c :: s => .char c :: pieces s
termination_by s => s.length
decreasing_by
  all_goals simp only [List.length_cons]
  · omega
  · have := length_of_cutAt _h
    omega
  · omega
  · omega
  · have := (List.dropWhile_suffix isNameChar (l := s)).length_le
    omega
  · omega

/-- The text of a part, or the name of the variable that is not set. A default counts only for a
variable that is not set, and values are not looked into again. -/
def Piece.expand (e : Environment) : Piece → Except String (List Char)
  | .char c => .ok [c]
  | .variable name default =>
    match e.get? (String.ofList name), default with
    | some value, _ => .ok value.toList
    | none, some default => .ok default
    | none, none => .error (String.ofList name)

def expandPieces (e : Environment) : List Piece → Except String (List Char)
  | [] => .ok []
  | p :: rest => do
    let head ← p.expand e
    let tail ← expandPieces e rest
    return head ++ tail

/-- Replaces a leading tilde that stands alone or before a slash. -/
def expandTilde (e : Environment) : List Char → List Char
  | '~' :: s =>
    if s.isEmpty || s.head? == some '/' then
      match e.home? with
      | some home => home.toList ++ s
      | none => '~' :: s
    else '~' :: s
  | s => s

def startsWithTilde (s : List Char) : Bool := s.head? == some '~'

/-- All variables, then the tilde, unless it came from a variable at the very start. -/
def expandText (e : Environment) (raw : List Char) : Except String (List Char) := do
  let text ← expandPieces e (pieces raw)
  return if startsWithTilde text && !startsWithTilde raw then text else expandTilde e text

/-- A written path in full: an absolute one as it is, any other seen from `root` and made
absolute. -/
def expand (e : Environment) (root raw : String) : Except PathError String :=
  match expandText e raw.toList with
  | .error key => .error (.expansion raw key)
  | .ok text =>
    if isAbsolute text then .ok (String.ofList text)
    else
      let anchored := join root.toList text
      match absolute? e.workingDirectory.toList anchored with
      | some path => .ok (String.ofList path)
      | none => .error (.absolute (String.ofList anchored))

end Path
end Launcher

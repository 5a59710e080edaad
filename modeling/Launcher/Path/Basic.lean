/-!
File paths as texts. Slashes separate segments; an empty segment and a single dot stand for
nothing, and two dots are kept, since they may cross a link. -/
namespace Launcher.Path

/-- Cuts the text at every slash. -/
def segments : List Char → List (List Char)
  | [] => [[]]
  | c :: s =>
    if c = '/' then [] :: segments s
    else
      match segments s with
      | [] => [[c]]
      | w :: ws => (c :: w) :: ws

/-- The segments with single slashes between them. -/
def joinSegments : List (List Char) → List Char
  | [] => []
  | [w] => w
  | w :: ws => w ++ '/' :: joinSegments ws

/-- A segment that stands for nothing. -/
def isVoid (segment : List Char) : Bool := segment == [] || segment == ['.']

/-- The segments that stand for something, in order. -/
def components (s : List Char) : List (List Char) := (segments s).filter fun w => !isVoid w

def isAbsolute (s : List Char) : Bool := s.head? == some '/'

def endsWithSlash (s : List Char) : Bool := s.getLast? == some '/'

/-- The second path seen from the first one: an absolute path stands for itself. -/
def join (base s : List Char) : List Char :=
  if isAbsolute s then s
  else if base.isEmpty || endsWithSlash base then base ++ s
  else base ++ '/' :: s

def dropVoidEnd (ws : List (List Char)) : List (List Char) := (ws.reverse.dropWhile isVoid).reverse

/-- The segments of what remains when the last component is taken off. -/
def withoutLast (ws : List (List Char)) : List (List Char) := dropVoidEnd (dropVoidEnd ws).dropLast

/-- The directory that a file's path mentions, as it is written there. The root and a bare name
are in the current directory. -/
def directory (s : List Char) : List Char :=
  match segments s with
  | [] :: body =>
    if (dropVoidEnd body).isEmpty then ['.'] else '/' :: joinSegments (withoutLast body)
  | ['.'] :: body => joinSegments (['.'] :: withoutLast body)
  | body =>
    match withoutLast body with
    | [] => ['.']
    | ws => joinSegments ws

/-- What a normalized path starts from. Exactly two leading slashes are kept, more are one. -/
def origin (workingDirectory s : List Char) : List Char :=
  match s with
  | '/' :: '/' :: '/' :: _ => ['/']
  | '/' :: '/' :: _ => ['/', '/']
  | '/' :: _ => ['/']
  | _ => workingDirectory

/-- Adds one segment after another. -/
def extend (base : List Char) (ws : List (List Char)) : List Char := ws.foldl join base

/-- The path from the root, without void segments; a slash at the end stays. The empty path has
no such form. -/
def absolute? (workingDirectory s : List Char) : Option (List Char) :=
  if s.isEmpty then none
  else
    let path := extend (origin workingDirectory s) (components s)
    some (if endsWithSlash s then join path [] else path)

def joinText (base s : String) : String := String.ofList (join base.toList s.toList)

def directoryText (s : String) : String := String.ofList (directory s.toList)

end Launcher.Path

import Launcher.Shell.Script
/-!
The text of a script while it is read: what is left of it, the token that has been looked at, and
the documents whose texts follow the line on which they are mentioned. -/
namespace Launcher.Shell

inductive Token where
  | endOfText
  | newline
  | operator (text : String)
  /-- With the number of its stream, if that is written. -/
  | redirection (stream : Option Nat) (operator : String)
  | word (w : Word)

/-- What is wrong with a script. -/
inductive SyntaxError where
  | unterminatedQuote
  | missingBrace
  | missingParentheses
  | endInBackquotes
  | unexpected (found : String) (expected : Option String)
  | badLoopName
  | badFunctionName
  | badDescriptor
  /-- Nested too deeply. -/
  | exhausted
  deriving DecidableEq, Repr

def SyntaxError.message (e : SyntaxError) : String :=
  "Syntax error: " ++
    match e with
    | .unterminatedQuote => "Unterminated quoted string"
    | .missingBrace => "Missing '\x7d'"
    | .missingParentheses => "Missing '))'"
    | .endInBackquotes => "EOF in backquote substitution"
    | .unexpected found none => found ++ " unexpected"
    | .unexpected found (some expected) => found ++ " unexpected (expecting " ++ expected ++ ")"
    | .badLoopName => "Bad for loop variable"
    | .badFunctionName => "Bad function name"
    | .badDescriptor => "Bad fd number"
    | .exhausted => "Nested too deeply"

/-- A document whose text is still to come. -/
structure Announced where
  number : Nat
  /-- The line that ends it. -/
  mark : Bytes
  /-- Nothing in the text is put in. -/
  literal : Bool
  /-- Tabs at the beginnings of lines do not count. -/
  stripsTabs : Bool

/-- A text that is read in the place of a word. -/
structure Replacing where
  name : Bytes
  /-- How much is left when the text has been read. -/
  left : Nat
  /-- It ends with a blank, so that the next word is looked at as well. -/
  goesOn : Bool

structure Source where
  rest : Bytes
  line : Nat
  ahead : Option Token
  announced : List Announced
  /-- By number. -/
  documents : List (Nat × Word)
  /-- The number of the next document. -/
  nextDocument : Nat
  /-- Names for texts that are read in their place. -/
  aliases : List (Bytes × Bytes)
  /-- Texts that have been put in the place of words, the latest first. -/
  replacing : List Replacing

/-- A problem and the line on which it was found. -/
structure Problem where
  line : Nat
  error : SyntaxError
  deriving Repr

abbrev Reader := StateT Source (Except Problem)

namespace Reader

def fail (e : SyntaxError) : Reader α := do throw ⟨(← get).line, e⟩

/-! ### Characters -/

/-- A backslash at the end of a line joins it with the next one. -/
def skipJoins (line : Nat) : Bytes → Nat × Bytes
  | '\\' :: '\n' :: s => skipJoins (line + 1) s
  | s => (line, s)

/-- The next character, after lines are joined. -/
def peek : Reader (Option Char) :=
  modifyGet fun s =>
    let (line, rest) := skipJoins s.line s.rest
    (rest.head?, { s with line, rest })

/-- The next character as it stands. -/
def peekRaw : Reader (Option Char) := do return (← get).rest.head?

/-- Leaves the next character behind. -/
def drop : Reader Unit :=
  modify fun s =>
    { s with
      rest := s.rest.drop 1
      line := if s.rest.head? = some '\n' then s.line + 1 else s.line }

/-- Leaves the next character behind if it is this one. -/
def accept (c : Char) : Reader Bool := do
  if (← peek) = some c then
    drop
    return true
  else return false

/-- Characters of a kind, with lines joined. -/
def takeWhile (p : Char → Bool) : Nat → Bytes → Reader Bytes
  | 0, held => pure held.reverse
  | fuel + 1, held => do
    match ← peek with
    | some c =>
      if p c then
        drop
        takeWhile p fuel (c :: held)
      else return held.reverse
    | none => return held.reverse

/-- More characters than a name has. -/
def remaining : Reader Nat := do return (← get).rest.length + 1

def name : Reader Bytes := do takeWhile isNameChar (← remaining) []

/-- What stands before the next such character as it stands, which is left behind. -/
def takeUntil (stopper : Char) (e : SyntaxError) : Reader Bytes := do
  let s ← get
  let before := s.rest.takeWhile (· != stopper)
  if before.length = s.rest.length then fail e
  else
    set { s with
      rest := s.rest.drop (before.length + 1)
      line := s.line + before.countP (· == '\n') }
    return before

/-! ### Marks and documents -/

def isBlankChar (c : Char) : Bool := c == ' ' || c == '\t'

/-- Ends a bare word. -/
def isDelimiter (c : Char) : Bool :=
  [' ', '\t', '\n', ';', '&', '|', '(', ')', '<', '>'].contains c

/-- The word that ends a document, and whether any of it is quoted. Nothing is put in. -/
def documentMark : Nat → Bool → Bytes → Reader (Bytes × Bool)
  | 0, quoted, held => pure (held, quoted)
  | fuel + 1, quoted, held => do
    match ← peek with
    | none => return (held, quoted)
    | some '\x27' =>
      drop
      let inside ← takeUntil '\x27' .unterminatedQuote
      documentMark fuel true (held ++ inside)
    | some '\x22' =>
      drop
      let inside ← takeUntil '\x22' .unterminatedQuote
      documentMark fuel true (held ++ inside)
    | some '\\' =>
      drop
      match ← peekRaw with
      | some c =>
        drop
        documentMark fuel true (held ++ [c])
      | none => return (held ++ ['\\'], true)
    | some c =>
      if isDelimiter c then return (held, quoted)
      else
        drop
        documentMark fuel quoted (held ++ [c])

/-- Registers a document and gives its number. -/
def announce (stripsTabs : Bool) : Reader Nat := do
  let _ ← takeWhile isBlankChar (← remaining) []
  let before := (← get).rest
  let (mark, literal) ← documentMark (before.length + 1) false []
  let s ← get
  if s.rest.length = before.length then
    fail (.unexpected (if before.isEmpty then "end of file"
      else if before.head? = some '\n' then "newline" else "redirection") none)
  else
    let document : Announced := ⟨s.nextDocument, mark, literal, stripsTabs⟩
    set { s with announced := s.announced ++ [document], nextDocument := s.nextDocument + 1 }
    return s.nextDocument

/-- Whether a backslash at the end of a line joins it with the next one. -/
def joinsNext (line : Bytes) : Bool := (line.reverse.takeWhile (· == '\\')).length % 2 == 1

/-- The lines before the mark, each with its end, and what stands after the mark. A line that is
joined with the one before is no mark. -/
def cutDocument (d : Announced) : Nat → Bool → Bytes → Bytes × Bytes
  | 0, _, s => ([], s)
  | _ + 1, _, [] => ([], [])
  | fuel + 1, isJoined, c :: s =>
    let line := (c :: s).takeWhile (· != '\n')
    let stripped := if d.stripsTabs && !isJoined then line.dropWhile (· == '\t') else line
    let rest := (c :: s).drop line.length
    if stripped = d.mark ∧ !isJoined then ([], rest.drop 1)
    else
      let (more, after) := cutDocument d fuel (!d.literal && joinsNext line) (rest.drop 1)
      (stripped ++ rest.take 1 ++ more, after)

end Reader

/-! ### Tokens -/

namespace Token

/-- The keyword that the token may be. -/
def keyword? : Token → Option String
  | .word w => (bareText? w).bind fun s =>
    let text := String.ofList s
    if keywords.contains text then some text else none
  | _ => none

def quote (s : String) : String := "\x22" ++ s ++ "\x22"

/-- The name that the token is, if it stands for a text, and that text. -/
def alias? (aliases : List (Bytes × Bytes)) : Token → Option (Bytes × Bytes)
  | .word w => (bareText? w).bind fun name =>
    if keywords.contains (String.ofList name) then none
    else (aliases.lookup name).map fun text => (name, text)
  | _ => none

/-- How complaints call the token. -/
def describe : Token → String
  | .endOfText => "end of file"
  | .newline => "newline"
  | .operator text => quote text
  | .redirection _ _ => "redirection"
  | .word w =>
    match keyword? (.word w) with
    | some text => quote text
    | none => "word"

/-- Ends a list of commands. -/
def endsList (t : Token) : Bool :=
  match t with
  | .endOfText => true
  | .operator text => text == ")" || text == ";;"
  | _ => (t.keyword?).any ["do", "done", "elif", "else", "esac", "fi", "then", "\x7d"].contains

end Token
end Launcher.Shell

import Launcher.Machine.Bytes
/-!
Shell scripts as trees: commands that are put together, and words that are made of pieces. -/
namespace Launcher.Shell

/-- What happens where a parameter has no value. -/
inductive Remedy where
  /-- The word stands in for it. -/
  | replaced
  /-- The word becomes its value. -/
  | assigned
  /-- The word says what is wrong, and the script ends. -/
  | refused
  /-- The word stands where there is a value, and nothing where there is none. -/
  | reversed
  deriving DecidableEq, Repr

inductive RedirectionKind where
  | input
  | output
  /-- Like `output`, and files that are there may always be replaced. -/
  | replace
  | append
  | both
  /-- The word is the number of another stream, or a dash. -/
  | duplicate
  deriving DecidableEq, Repr

mutual

/-- A part of a word. Quoted parts are never split, and stand for themselves in patterns. -/
inductive Piece where
  | text (s : Bytes) (quoted : Bool)
  | parameter (name : Bytes) (use : Use) (quoted : Bool)
  /-- What a script writes. -/
  | output (script : Script) (quoted : Bool)
  | arithmetic (expression : List Piece) (quoted : Bool)

/-- What a parameter is mentioned for. -/
inductive Use where
  | value
  | length
  | remedy (kind : Remedy) (forEmpty : Bool) (word : List Piece)
  /-- The value without what the pattern matches at its beginning or its end. -/
  | trimmed (atEnd longest : Bool) (pattern : List Piece)
  /-- Written in a way that has no meaning. -/
  | malformed

inductive Redirection where
  | file (stream : Nat) (kind : RedirectionKind) (word : List Piece)
  /-- From a text in the script, known by its number. -/
  | document (stream number : Nat)

/-- A script. Numbers of lines are kept where complaints mention them. -/
inductive Script where
  | empty
  | command (line : Nat) (assignments : List (Bytes × List Piece)) (words : List (List Piece))
      (redirections : List Redirection)
  | define (name : Bytes) (body : Script)
  | sequence (first next : Script)
  /-- The second part counts only if the first one succeeds. -/
  | both (first next : Script)
  | either (first next : Script)
  | negated (body : Script)
  | pipeline (parts : List Script) (behind : Bool)
  | subshell (line : Nat) (body : Script) (redirections : List Redirection)
  /-- Runs while the script goes on. -/
  | background (line : Nat) (body : Script) (redirections : List Redirection)
  | conditional (test yes no : Script)
  /-- Goes on until the test succeeds, or as long as it does. -/
  | loop (untilTrue : Bool) (test body : Script)
  | each (line : Nat) (name : Bytes) (words : List (List Piece)) (body : Script)
  | choice (line : Nat) (word : List Piece) (branches : List (List (List Piece) × Script))
  | redirected (line : Nat) (body : Script) (redirections : List Redirection)

end

abbrev Word := List Piece

instance : Inhabited Script := ⟨.empty⟩

/-! ### Characters -/

def isNameStart (c : Char) : Bool := c.isAlpha || c == '_'

def isNameChar (c : Char) : Bool := c.isAlphanum || c == '_'

/-- A parameter that belongs to the shell and has one character. -/
def isSpecial (c : Char) : Bool := ['?', '$', '#', '@', '*', '!', '-'].contains c

/-- Letters, digits and underscores, of which the first is no digit. -/
def isName : Bytes → Bool
  | [] => false
  | c :: s => isNameStart c && s.all isNameChar

/-- The text of a word without quotes, if it is all text. -/
def bareText? : Word → Option Bytes
  | [.text s false] => some s
  | _ => none

/-- Adds a character to the last piece, which comes first, if that is text of the same kind. -/
def addChar (c : Char) (quoted : Bool) (pieces : List Piece) : List Piece :=
  match pieces with
  | .text s q :: rest =>
    if q = quoted then .text (s ++ [c]) quoted :: rest else .text [c] quoted :: pieces
  | _ => .text [c] quoted :: pieces

/-- A name and the word after its equals sign. -/
def assignment? (w : Word) : Option (Bytes × Word) :=
  match w with
  | .text s false :: rest =>
    let name := s.takeWhile isNameChar
    match s.drop name.length with
    | '=' :: value =>
      if isName name then
        some (name, if value.isEmpty then rest else .text value false :: rest)
      else none
    | _ => none
  | _ => none

/-- Texts that mark the parts of a script where a command may begin. -/
def keywords : List String :=
  ["!", "case", "do", "done", "elif", "else", "esac", "fi", "for", "if", "in", "then", "until",
   "while", "\x7b", "\x7d"]

/-- Commands of the shell itself that no function can stand in for. -/
def specialCommands : List String :=
  [".", ":", "break", "continue", "eval", "exec", "exit", "export", "readonly", "return", "set",
   "shift", "times", "trap", "unset"]

/-- One script after the other. -/
def Script.andThen (first next : Script) : Script :=
  match next with
  | .empty => first
  | next => .sequence first next

/-- A script that runs while the next one goes on. -/
def Script.behind (line : Nat) : Script → Script
  | .pipeline parts _ => .pipeline parts true
  | .redirected line body redirections => .background line body redirections
  | s => .background line s []

end Launcher.Shell

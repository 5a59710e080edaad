import Launcher.Text.Case
/-!
The tokens of a TOML text. A token is a punctuation mark, a run of blanks, a line end, a comment, a
quoted text with its escapes resolved, or a word: a bare key, a dotted sequence of them, or an
unquoted value. -/
namespace Launcher.Toml

inductive Token where
  | equals
  | comma
  | openBracket
  | closeBracket
  | openBrace
  | closeBrace
  | newline
  | comment
  | blank (s : List Char)
  | word (s : List Char)
  | text (multiline : Bool) (s : List Char)
  deriving DecidableEq, Repr

namespace Token

def mark? : Char → Option Token
  | '=' => some .equals
  | ',' => some .comma
  | '[' => some .openBracket
  | ']' => some .closeBracket
  | '\x7b' => some .openBrace
  | '\x7d' => some .closeBrace
  | _ => none

def isBlankChar (c : Char) : Bool := c == ' ' || c == '\t'

def isControl (c : Char) : Bool := (c.toNat < 0x20 && c != '\t') || c.toNat == 0x7f

/-- What the reader is in the middle of. Characters of a token are held in reverse. -/
inductive Mode where
  | between
  | blanks (held : List Char)
  | word (held : List Char)
  | comment
  | literal (held : List Char)
  | basic (held : List Char)
  | longLiteral (held : List Char)
  /-- After a backslash at the end of a line, blanks and line ends are skipped. -/
  | longBasic (skipping : Bool) (held : List Char)

/-- The token that ends where another one begins. -/
def Mode.finish : Mode → List Token
  | .blanks held => [.blank held.reverse]
  | .word held => [.word held.reverse]
  | .comment => [.comment]
  | _ => []

/-- The character of a one-letter escape. -/
def simpleEscape? : Char → Option Char
  | 'b' => some '\x08'
  | 't' => some '\t'
  | 'n' => some '\n'
  | 'f' => some '\x0c'
  | 'r' => some '\r'
  | 'e' => some '\x1b'
  | '\x22' => some '\x22'
  | '\\' => some '\\'
  | _ => none

def digitCount? : Char → Option Nat
  | 'x' => some 2
  | 'u' => some 4
  | 'U' => some 8
  | _ => none

/-- The character with the code point, which must not be a surrogate. -/
def scalar? (digits : List Char) : Option Char :=
  (Text.numeral? 16 digits).bind fun n => if n.isValidChar then some (Char.ofNat n) else none

/-- Whether the line has nothing but blanks left. -/
def endsLine (s : List Char) : Bool :=
  match s.dropWhile isBlankChar with
  | '\n' :: _ => true
  | '\r' :: '\n' :: _ => true
  | _ => false

/-- What an escape at the head of the text comes to. -/
inductive Escape where
  | char (c : Char) (length : Nat)
  | lineEnd
  | invalid

def escape (inLong : Bool) (s : List Char) : Escape :=
  match s with
  | [] => .invalid
  | c :: rest =>
    match simpleEscape? c with
    | some e => .char e 1
    | none =>
      match digitCount? c with
      | some n =>
        if rest.length < n then .invalid
        else
          match scalar? (rest.take n) with
          | some e => .char e (n + 1)
          | none => .invalid
      | none => if inLong && endsLine s then .lineEnd else .invalid

/-- Reads the text from left to right; `passed` characters have been taken care of already. -/
def scan : Mode → Nat → List Char → Option (List Token)
  | mode, _, [] =>
    match mode with
    | .between | .blanks _ | .word _ | .comment => some mode.finish
    | _ => none
  | mode, passed + 1, _ :: s => scan mode passed s
  | .literal held, 0, c :: s =>
    if c = '\x27' then (scan .between 0 s).map (.text false held.reverse :: ·)
    else if isControl c then none
    else scan (.literal (c :: held)) 0 s
  | .basic held, 0, c :: s =>
    if c = '\x22' then (scan .between 0 s).map (.text false held.reverse :: ·)
    else if c = '\\' then
      match escape false s with
      | .char e n => scan (.basic (e :: held)) n s
      | _ => none
    else if isControl c then none
    else scan (.basic (c :: held)) 0 s
  | .longLiteral held, 0, c :: s =>
    match c :: s with
    | '\x27' :: '\x27' :: '\x27' :: '\x27' :: '\x27' :: _ =>
      (scan .between 4 s).map (.text true ('\x27' :: '\x27' :: held).reverse :: ·)
    | '\x27' :: '\x27' :: '\x27' :: '\x27' :: _ =>
      (scan .between 3 s).map (.text true ('\x27' :: held).reverse :: ·)
    | '\x27' :: '\x27' :: '\x27' :: _ => (scan .between 2 s).map (.text true held.reverse :: ·)
    | '\r' :: '\n' :: _ => scan (.longLiteral ('\n' :: '\r' :: held)) 1 s
    | _ =>
      if isControl c && c != '\n' then none else scan (.longLiteral (c :: held)) 0 s
  | .longBasic skipping held, 0, c :: s =>
    match c :: s with
    | '\x22' :: '\x22' :: '\x22' :: '\x22' :: '\x22' :: _ =>
      (scan .between 4 s).map (.text true ('\x22' :: '\x22' :: held).reverse :: ·)
    | '\x22' :: '\x22' :: '\x22' :: '\x22' :: _ =>
      (scan .between 3 s).map (.text true ('\x22' :: held).reverse :: ·)
    | '\x22' :: '\x22' :: '\x22' :: _ => (scan .between 2 s).map (.text true held.reverse :: ·)
    | '\r' :: '\n' :: _ =>
      scan (.longBasic skipping (if skipping then held else '\n' :: '\r' :: held)) 1 s
    | '\\' :: _ =>
      match escape true s with
      | .char e n => scan (.longBasic false (e :: held)) n s
      | .lineEnd => scan (.longBasic true held) 0 s
      | .invalid => none
    | _ =>
      if skipping && (isBlankChar c || c == '\n') then scan (.longBasic true held) 0 s
      else if isControl c && c != '\n' then none
      else scan (.longBasic false (c :: held)) 0 s
  | .comment, 0, c :: s =>
    match c :: s with
    | '\n' :: _ => (scan .between 0 s).map (.comment :: .newline :: ·)
    | '\r' :: '\n' :: _ => (scan .between 1 s).map (.comment :: .newline :: ·)
    | _ => if isControl c then none else scan .comment 0 s
  | mode, 0, c :: s =>
    match c :: s with
    | '\n' :: _ => (scan .between 0 s).map (mode.finish ++ .newline :: ·)
    | '\r' :: '\n' :: _ => (scan .between 1 s).map (mode.finish ++ .newline :: ·)
    | '#' :: _ => (scan .comment 0 s).map (mode.finish ++ ·)
    | '\x27' :: '\x27' :: '\x27' :: '\n' :: _ => (scan (.longLiteral []) 3 s).map (mode.finish ++ ·)
    | '\x27' :: '\x27' :: '\x27' :: '\r' :: '\n' :: _ =>
      (scan (.longLiteral []) 4 s).map (mode.finish ++ ·)
    | '\x27' :: '\x27' :: '\x27' :: _ => (scan (.longLiteral []) 2 s).map (mode.finish ++ ·)
    | '\x27' :: _ => (scan (.literal []) 0 s).map (mode.finish ++ ·)
    | '\x22' :: '\x22' :: '\x22' :: '\n' :: _ =>
      (scan (.longBasic false []) 3 s).map (mode.finish ++ ·)
    | '\x22' :: '\x22' :: '\x22' :: '\r' :: '\n' :: _ =>
      (scan (.longBasic false []) 4 s).map (mode.finish ++ ·)
    | '\x22' :: '\x22' :: '\x22' :: _ => (scan (.longBasic false []) 2 s).map (mode.finish ++ ·)
    | '\x22' :: _ => (scan (.basic []) 0 s).map (mode.finish ++ ·)
    | _ =>
      match mark? c with
      | some token => (scan .between 0 s).map (mode.finish ++ token :: ·)
      | none =>
        if isBlankChar c then
          match mode with
          | .blanks held => scan (.blanks (c :: held)) 0 s
          | _ => (scan (.blanks [c]) 0 s).map (mode.finish ++ ·)
        else if isControl c then none
        else
          match mode with
          | .word held => scan (.word (c :: held)) 0 s
          | _ => (scan (.word [c]) 0 s).map (mode.finish ++ ·)

/-- The tokens of a text; a byte order mark at its head is no part of it. -/
def ofText? : List Char → Option (List Token)
  | '\uFEFF' :: s => scan .between 0 s
  | s => scan .between 0 s

end Token
end Launcher.Toml

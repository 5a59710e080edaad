import Launcher.Toml.Token
import Launcher.Toml.Scalar
import Launcher.Toml.Table
/-!
TOML documents: the tables that a text describes. Version 1.1 of the language, in which tables
between braces may span lines, on both sides of every mark between them, and end with a comma. -/
namespace Launcher.Toml

/-- A part of a key as it is written. -/
inductive KeyPart where
  | dot
  | name (s : String)
  deriving DecidableEq, Repr

def isBareKeyChar (c : Char) : Bool :=
  ('a' ≤ c && c ≤ 'z') || ('A' ≤ c && c ≤ 'Z') || ('0' ≤ c && c ≤ '9') || c == '_' || c == '-'

/-- Splits a word at its dots; the run of other characters before the next dot is `held`. -/
def keyParts (held : List Char) : List Char → List KeyPart
  | [] => if held.isEmpty then [] else [.name (String.ofList held)]
  | c :: s =>
    if c = '.' then
      if held.isEmpty then .dot :: keyParts [] s
      else .name (String.ofList held) :: .dot :: keyParts [] s
    else keyParts (held ++ [c]) s

/-- The parts at the head of the tokens, and what follows them. -/
def takeKey : List Token → Option (List KeyPart × List Token)
  | .blank _ :: rest => takeKey rest
  | .word s :: rest =>
    if s.all fun c => isBareKeyChar c || c == '.' then
      (takeKey rest).map fun (parts, rest) => (keyParts [] s ++ parts, rest)
    else none
  | .text false s :: rest =>
    (takeKey rest).map fun (parts, rest) => (.name (String.ofList s) :: parts, rest)
  | rest => some ([], rest)

/-- Names with single dots between them. -/
def path? : List KeyPart → Option (List String)
  | [.name s] => some [s]
  | .name s :: .dot :: rest => (path? rest).map (s :: ·)
  | _ => none

/-- A key with at most so many parts as tables may be deep. -/
def key? (tokens : List Token) : Option (List String × List Token) := do
  let (parts, rest) ← takeKey tokens
  let path ← path? parts
  if path.length ≤ greatestDepth then return (path, rest) else none

def skipBlanks : List Token → List Token
  | .blank _ :: rest => skipBlanks rest
  | rest => rest

/-- Skips blanks, line ends and comments. -/
def skipLines : List Token → List Token
  | .blank _ :: rest => skipLines rest
  | .newline :: rest => skipLines rest
  | .comment :: rest => skipLines rest
  | rest => rest

mutual

/-- A value at the head of the tokens, inside of so many brackets and braces. The fuel is used up
by one with every step. -/
def value? (fuel depth : Nat) (tokens : List Token) : Option (Value × List Token) :=
  match fuel with
  | 0 => none
  | fuel + 1 =>
    match tokens with
    | .text _ s :: rest => some (.string (String.ofList s), rest)
    | .word date :: .blank [' '] :: .word time :: rest =>
      if isDate date then
        (scalar? (date ++ ' ' :: time)).map fun v => (v, rest)
      else none
    | .word s :: rest => (scalar? s).map fun v => (v, rest)
    | .openBracket :: rest =>
      if depth < greatestDepth then items? fuel (depth + 1) [] rest else none
    | .openBrace :: rest =>
      if depth < greatestDepth then members? fuel (depth + 1) [] rest else none
    | _ => none

/-- The items of an array up to its closing bracket. -/
def items? (fuel depth : Nat) (held : List Value) (tokens : List Token) :
    Option (Value × List Token) :=
  match fuel with
  | 0 => none
  | fuel + 1 =>
    match skipLines tokens with
    | .closeBracket :: rest => some (.array false held.reverse, rest)
    | tokens =>
      match value? fuel depth tokens with
      | none => none
      | some (v, rest) =>
        match skipLines rest with
        | .comma :: rest => items? fuel depth (v :: held) rest
        | .closeBracket :: rest => some (.array false (v :: held).reverse, rest)
        | _ => none

/-- The members of a table up to its closing brace. -/
def members? (fuel depth : Nat) (held : Entries) (tokens : List Token) :
    Option (Value × List Token) :=
  match fuel with
  | 0 => none
  | fuel + 1 =>
    match skipLines tokens with
    | .closeBrace :: rest => some (.table .inline held, rest)
    | tokens =>
      match key? tokens with
      | none => none
      | some (path, rest) =>
        match skipLines rest with
        | .equals :: rest =>
          match value? fuel depth (skipLines rest) with
          | none => none
          | some (v, rest) =>
            match held.put v path with
            | none => none
            | some held =>
              match skipLines rest with
              | .comma :: rest => members? fuel depth held rest
              | .closeBrace :: rest => some (.table .inline held, rest)
              | _ => none
        | _ => none

end

/-- A line of a document. -/
inductive Line where
  | empty
  | entry (path : List String) (value : Value)
  | header (path : List String)
  | element (path : List String)

/-- What a line with a key or a header comes to, and the tokens after it. -/
def line? (tokens : List Token) : Option (Line × List Token) :=
  match skipBlanks tokens with
  | [] => some (.empty, [])
  | .newline :: rest => some (.empty, .newline :: rest)
  | .comment :: rest => some (.empty, .comment :: rest)
  | .openBracket :: .openBracket :: rest =>
    match key? rest with
    | some (path, .closeBracket :: .closeBracket :: rest) => some (.element path, rest)
    | _ => none
  | .openBracket :: rest =>
    match key? rest with
    | some (path, .closeBracket :: rest) => some (.header path, rest)
    | _ => none
  | rest =>
    match key? rest with
    | some (path, .equals :: rest) =>
      (value? (2 * rest.length + 2) 0 (skipBlanks rest)).map fun (v, rest) => (.entry path v, rest)
    | _ => none

/-- Blanks and a comment may follow, then the line ends. -/
def lineEnd? (tokens : List Token) : Option (List Token) :=
  match skipBlanks tokens with
  | [] => some []
  | .newline :: rest => some rest
  | .comment :: .newline :: rest => some rest
  | [.comment] => some []
  | _ => none

/-- The tables so far, and the header that new keys belong under. -/
structure Draft where
  root : Entries
  header : List String

def Draft.add (d : Draft) : Line → Option Draft
  | .empty => some d
  | .entry path v => (d.root.under (Entries.put v path) d.header).map fun root => { d with root }
  | .header path => (d.root.follow Entries.define path).map fun root => ⟨root, path⟩
  | .element path => (d.root.follow Entries.append path).map fun root => ⟨root, path⟩

/-- Reads line after line; there are at most `fuel` of them. -/
def lines? (fuel : Nat) (d : Draft) (tokens : List Token) : Option Entries :=
  match fuel with
  | 0 => none
  | fuel + 1 =>
    if tokens.isEmpty then some d.root
    else do
      let (line, rest) ← line? tokens
      let d ← d.add line
      let rest ← lineEnd? rest
      lines? fuel d rest

/-- The table that a text describes, if the text is well formed. -/
def read? (text : String) : Option Entries := do
  let tokens ← Token.ofText? text.toList
  lines? (tokens.length + 1) ⟨[], []⟩ tokens

end Launcher.Toml

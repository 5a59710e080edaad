import Launcher.Machine.Activity
import Launcher.Utility.Format
/-!
Conditions about texts, numbers and files, written as words. An operator that could be an operand is
taken for one where the words around it say so. -/
namespace Launcher.Utility

open Machine (Doing)

namespace Condition

inductive Kind where
  | unary
  | binary
  | negation
  | conjunction
  | disjunction
  | opening
  | closing
  deriving DecidableEq, Repr

def unaryOperators : List String :=
  ["-r", "-w", "-x", "-e", "-f", "-d", "-c", "-b", "-p", "-u", "-g", "-k", "-s", "-t", "-z", "-n",
   "-h", "-L", "-O", "-G", "-S"]

def binaryOperators : List String :=
  ["=", "!=", "<", ">", "-eq", "-ne", "-ge", "-gt", "-le", "-lt", "-nt", "-ot", "-ef"]

def kind? (dialect : Dialect) (word : Bytes) : Option Kind :=
  let s := String.ofList word
  if unaryOperators.contains s then some .unary
  else if binaryOperators.contains s || (dialect == .system && s == "==") then some .binary
  else if s = "!" then some .negation
  else if s = "-a" then some .conjunction
  else if s = "-o" then some .disjunction
  else if s = "(" then some .opening
  else if s = ")" then some .closing
  else none

inductive Problem where
  | noClosingBracket
  | noClosingParenthesis
  | noArgument (operator : Bytes)
  | unexpectedOperator (word : Bytes)
  | notANumber (word : Bytes)
  deriving DecidableEq, Repr

def Problem.text : Problem → Dialect → Bytes
  | .noClosingBracket, .shell => "missing ]".toList
  | .noClosingBracket, .system => "missing ']'".toList
  | .noClosingParenthesis, .shell => "closing paren expected".toList
  | .noClosingParenthesis, .system => "')' expected".toList
  | .noArgument operator, .shell => operator ++ ": argument expected".toList
  | .noArgument operator, .system => "missing argument after ".toList ++ Format.quoted operator
  | .unexpectedOperator word, .shell => word ++ ": unexpected operator".toList
  | .unexpectedOperator word, .system => "extra argument ".toList ++ Format.quoted word
  | .notANumber word, .shell => "Illegal number: ".toList ++ word
  | .notANumber word, .system => "invalid integer ".toList ++ Format.quoted word

/-- The words that have not been looked at, and what may go wrong. -/
abbrev Reader := ExceptT Problem Doing

/-- A whole number with blanks around it. -/
def number (word : Bytes) : Reader Int :=
  let n := Numeral.signed false word
  if n.cut ∨ n.rest.length = word.length ∨ !(Numeral.dropSpaces n.rest).isEmpty then
    throw (.notANumber word)
  else pure n.value

def look (path : Bytes) : Doing (Option Host.File) := do
  return (← Doing.ask (.look path)).toOption

def isExecutable : Host.File → Bool
  | .regular _ executable => executable
  | _ => true

def isFilled : Host.File → Bool
  | .regular bytes _ => !bytes.isEmpty
  | _ => true

/-- The one file that is no text but a device. -/
def isDevice (path : Bytes) : Bool := path == "/dev/null".toList

def unary (operator operand : Bytes) : Reader Bool := do
  match String.ofList operator with
  | "-z" => return operand.isEmpty
  | "-n" => return !operand.isEmpty
  | "-t" =>
    let _ ← number operand
    return false
  | name =>
    let file ← (look operand : Doing (Option Host.File))
    let holds (p : Host.File → Bool) : Bool := file.any p
    match name with
    | "-e" | "-r" | "-w" | "-O" | "-G" => return holds fun _ => true
    | "-f" => return holds (fun f => !f.isDirectory) && !isDevice operand
    | "-c" => return isDevice operand
    | "-d" => return holds Host.File.isDirectory
    | "-x" => return holds isExecutable
    | "-s" => return holds isFilled
    | _ => return false

def compare (holds : Int → Int → Bool) (a b : Bytes) : Reader Bool := do
  return holds (← number a) (← number b)

def binary (operator a b : Bytes) : Reader Bool := do
  match String.ofList operator with
  | "=" | "==" => return a == b
  | "!=" => return a != b
  | "<" => return Bytes.isBefore a b
  | ">" => return Bytes.isBefore b a
  | "-eq" => compare (fun m n => m == n) a b
  | "-ne" => compare (fun m n => m != n) a b
  | "-ge" => compare (fun m n => decide (n ≤ m)) a b
  | "-gt" => compare (fun m n => decide (n < m)) a b
  | "-le" => compare (fun m n => decide (m ≤ n)) a b
  | "-lt" => compare (fun m n => decide (m < n)) a b
  | "-ef" => return a == b && (← (look a : Doing _)).isSome
  | _ => return false

/-- What a word is where it stands. -/
inductive Token where
  | ended
  | operand
  | operator (kind : Kind)
  deriving DecidableEq, Repr

/-- Whether the words after an operator show that it is an operand. -/
def makesOperand (dialect : Dialect) : List Bytes → Bool
  | [] => true
  | [_] => false
  | word :: _ => kind? dialect word == some .binary

def token (dialect : Dialect) : List Bytes → Token
  | [] => .ended
  | word :: rest =>
    match kind? dialect word with
    | none => .operand
    | some kind =>
      if kind = .unary ∧ makesOperand dialect rest then .operand
      else if kind = .opening ∧ rest.isEmpty then .operand
      else .operator kind

mutual

/-- Alternatives. The words that come back begin with the last one that was used. -/
def either (dialect : Dialect) (fuel : Nat) (t : Token) (words : List Bytes) :
    Reader (Bool × List Bytes) :=
  match fuel with
  | 0 => pure (false, words)
  | fuel + 1 => do
    let (first, words) ← both dialect fuel t words
    if token dialect (words.drop 1) = .operator .disjunction then
      let (next, words) ← either dialect fuel (token dialect (words.drop 2)) (words.drop 2)
      return (first || next, words)
    else return (first, words)

def both (dialect : Dialect) (fuel : Nat) (t : Token) (words : List Bytes) :
    Reader (Bool × List Bytes) :=
  match fuel with
  | 0 => pure (false, words)
  | fuel + 1 => do
    let (first, words) ← negation dialect fuel t words
    if token dialect (words.drop 1) = .operator .conjunction then
      let (next, words) ← both dialect fuel (token dialect (words.drop 2)) (words.drop 2)
      return (first && next, words)
    else return (first, words)

def negation (dialect : Dialect) (fuel : Nat) (t : Token) (words : List Bytes) :
    Reader (Bool × List Bytes) :=
  match fuel with
  | 0 => pure (false, words)
  | fuel + 1 => do
    if t = .operator .negation then
      let next := token dialect (words.drop 1)
      let inside := if next = .ended then words else words.drop 1
      let (value, words) ← negation dialect fuel next inside
      return (!value, words)
    else primary dialect fuel t words

def primary (dialect : Dialect) (fuel : Nat) (t : Token) (words : List Bytes) :
    Reader (Bool × List Bytes) :=
  match fuel with
  | 0 => pure (false, words)
  | fuel + 1 => do
    let word := words.headD []
    match t with
    | .ended => return (false, words)
    | .operator .opening =>
      let inside := token dialect (words.drop 1)
      if inside = .operator .closing then return (false, words.drop 1)
      else
        let (value, words) ← either dialect fuel inside (words.drop 1)
        if token dialect (words.drop 1) = .operator .closing then return (value, words.drop 1)
        else throw .noClosingParenthesis
    | .operator .unary =>
      match words.drop 1 with
      | [] => throw (.noArgument word)
      | operand :: _ => return (← unary word operand, words.drop 1)
    | _ =>
      if token dialect (words.drop 1) = .operator .binary then
        match words.drop 1 with
        | operator :: operand :: rest => return (← binary operator word operand, operand :: rest)
        | operator :: [] => throw (.noArgument operator)
        | [] => return (false, words)
      else return (!word.isEmpty, words)

end

/-- Evaluates words that have been understood so far as to begin with the token. -/
def evaluate (dialect : Dialect) (t : Token) (words : List Bytes) : Reader Bool := do
  let (value, rest) ← either dialect (4 * words.length + 8) t words
  match rest with
  | word :: _ :: _ => throw (.unexpectedOperator word)
  | _ => return value

/-- The value of the words. How many there are decides what they mean, as long as they are few. -/
def value (dialect : Dialect) (words : List Bytes) : Reader Bool := do
  let isWordPair : Bool :=
    match words with
    | [first, _] => dialect == .system && first.head? != some '-' && first != ['!']
    | _ => false
  let asBinary : Bool :=
    match words with
    | [_, operator, _] => kind? dialect operator == some .binary
    | _ => false
  if words.isEmpty then return false
  else if isWordPair then throw (.noArgument (words.getLastD []))
  else if asBinary then evaluate dialect .operand words
  else if words.length = 3 ∨ words.length = 4 then
    if words.head? = some ['('] ∧ words.getLast? = some [')'] then
      let inside := (words.drop 1).dropLast
      evaluate dialect (token dialect inside) inside
    else if words.head? = some ['!'] then
      return !(← evaluate dialect (token dialect (words.drop 1)) (words.drop 1))
    else evaluate dialect (token dialect words) words
  else evaluate dialect (token dialect words) words

/-- The value of the words before a closing bracket. -/
def bracketed (dialect : Dialect) (words : List Bytes) : Reader Bool :=
  match words.getLast? with
  | some (']' :: _) => value dialect words.dropLast
  | _ => throw .noClosingBracket

end Condition
end Launcher.Utility

import Launcher.Utility.Basic
import Launcher.Utility.Regex
/-!
Expressions about numbers and texts, written as words. -/
namespace Launcher.Utility

open Machine (Doing)

namespace Expression

inductive Problem where
  | missing (word : Bytes)
  | unexpected (word : Bytes)
  | noClosing (word : Bytes)
  | notANumber
  | divisionByZero

def Problem.text : Problem → Bytes
  | .missing word => "syntax error: missing argument after ".toList ++ Format.quoted word
  | .unexpected word => "syntax error: unexpected argument ".toList ++ Format.quoted word
  | .noClosing word => "syntax error: expecting ')' after ".toList ++ Format.quoted word
  | .notANumber => "non-integer argument".toList
  | .divisionByZero => "division by zero".toList

/-- The words that are left, after the last one that was read. -/
structure State where
  last : Bytes
  words : List Bytes

abbrev Reader := StateT State (Except Problem)

def number? (s : Bytes) : Option Int :=
  match s with
  | '-' :: digits => (natural? digits).map fun n => -n
  | digits => (natural? digits).map fun n => n

def number (s : Bytes) : Except Problem Int :=
  match number? s with
  | some n => .ok n
  | none => .error .notANumber

def textOf (n : Int) : Bytes := (toString n).toList

def ofBool (b : Bool) : Bytes := if b then ['1'] else ['0']

/-- Neither empty nor zero. -/
def isTrue (s : Bytes) : Bool := !s.isEmpty && number? s != some 0

/-- How much of a text an expression matches at its beginning, or what its first group matches. -/
def matched (text pattern : Bytes) : Bytes :=
  match Regex.ofText? false pattern with
  | none => ['0']
  | some r =>
    let hasGroup := (Regex.signs false (pattern.length + 1) pattern).any fun s =>
      s.any fun x => x matches .opening
    match Regex.longest? false r ⟨none, text, []⟩ with
    | none => if hasGroup then [] else ['0']
    | some t =>
      if hasGroup then (t.groups.lookup 1).getD []
      else textOf (text.length - t.rest.length)

def compare (operator a b : Bytes) : Bytes :=
  let (less, equal) : Bool × Bool :=
    match number? a, number? b with
    | some m, some n => (decide (m < n), m == n)
    | _, _ => (Bytes.isBefore a b, a == b)
  ofBool <|
    match String.ofList operator with
    | "<" => less
    | "<=" => less || equal
    | "=" | "==" => equal
    | "!=" => !equal
    | ">=" => !less
    | _ => !less && !equal

def calculate (operator a b : Bytes) : Except Problem Bytes := do
  let m ← number a
  let n ← number b
  match operator with
  | ['+'] => return textOf (m + n)
  | ['-'] => return textOf (m - n)
  | ['*'] => return textOf (m * n)
  | _ =>
    if n = 0 then throw .divisionByZero
    else return textOf (if operator = ['/'] then m.tdiv n else m.tmod n)

/-- The strength with which an operator binds. -/
def strength? (operator : Bytes) : Option Nat :=
  match String.ofList operator with
  | "|" => some 0
  | "&" => some 1
  | "<" | "<=" | "=" | "==" | "!=" | ">=" | ">" => some 2
  | "+" | "-" => some 3
  | "*" | "/" | "%" => some 4
  | ":" => some 5
  | _ => none

def combine (operator a b : Bytes) : Except Problem Bytes :=
  match strength? operator with
  | some 0 => .ok (if isTrue a then a else if isTrue b then b else ['0'])
  | some 1 => .ok (if isTrue a && isTrue b then a else ['0'])
  | some 2 => .ok (compare operator a b)
  | some 5 => .ok (matched a b)
  | _ => calculate operator a b

def next? : Reader (Option Bytes) := do return (← get).words.head?

def take : Reader Bytes := do
  let s ← get
  match s.words with
  | [] => throw (.missing s.last)
  | word :: words =>
    set (⟨word, words⟩ : State)
    return word

mutual

/-- A value, and what operators at least so strong make of it. -/
def level (fuel strength : Nat) : Reader Bytes :=
  match fuel with
  | 0 => throw .notANumber
  | fuel + 1 => do
    if strength > 5 then primary fuel
    else moreOf fuel strength (← level fuel (strength + 1))

def moreOf (fuel strength : Nat) (held : Bytes) : Reader Bytes :=
  match fuel with
  | 0 => throw .notANumber
  | fuel + 1 => do
    match ← next? with
    | none => return held
    | some operator =>
      if strength? operator = some strength then
        let _ ← take
        let other ← level fuel (strength + 1)
        match combine operator held other with
        | .ok value => moreOf fuel strength value
        | .error e => throw e
      else return held

def primary (fuel : Nat) : Reader Bytes :=
  match fuel with
  | 0 => throw .notANumber
  | fuel + 1 => do
    let word ← take
    match String.ofList word with
    | "(" =>
      let value ← level fuel 0
      match (← get).words with
      | [')'] :: _ =>
        let _ ← take
        return value
      | [] => throw (.noClosing (← get).last)
      | _ => throw (.noClosing (← get).last)
    | ")" => throw (.unexpected word)
    | "+" => take
    | "length" => return textOf (← primary fuel).length
    | "match" =>
      let text ← primary fuel
      return matched text (← primary fuel)
    | "index" =>
      let text ← primary fuel
      let chars ← primary fuel
      let position := text.findIdx chars.contains
      return textOf (if position < text.length then position + 1 else 0)
    | "substr" =>
      let text ← primary fuel
      let position := number? (← primary fuel)
      let length := number? (← primary fuel)
      match position, length with
      | some (.ofNat (p + 1)), some (.ofNat n) => return (text.drop p).take n
      | _, _ => return []
    | _ => return word

end

/-- The value of all words. -/
def value (words : List Bytes) : Except Problem Bytes := do
  let (v, s) ← (level (16 * words.length + 16) 0).run ⟨[], words⟩
  match s.words with
  | [] => return v
  | word :: _ => throw (.unexpected word)

end Expression

/-- Shows the value of an expression. -/
def expr : Program := fun i => do
  let words := if i.arguments.head? = some ['-', '-'] then i.arguments.drop 1 else i.arguments
  if words.isEmpty then
    let _ ← i.misuse "missing operand"
    return 2
  else
    match Expression.value words with
    | .error e =>
      i.complain e.text
      return 2
    | .ok v =>
      let _ ← print i (v ++ ['\n'])
      return if Expression.isTrue v then 0 else 1

end Launcher.Utility

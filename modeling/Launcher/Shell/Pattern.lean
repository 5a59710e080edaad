import Launcher.Machine.Bytes
/-!
Patterns of a shell: a star stands for any text, a question mark for any character, and brackets for
one of the characters in them. -/
namespace Launcher.Shell

/-- A character of a pattern. What is quoted stands for itself. -/
structure PatternChar where
  char : Char
  quoted : Bool
  deriving DecidableEq, Repr

abbrev Pattern := List PatternChar

namespace Pattern

/-- What one bracket admits. -/
inductive Item where
  | range (first last : Char)
  | kind (name : String)
  deriving DecidableEq, Repr

def isPrintable (c : Char) : Bool := 0x20 ≤ c.toNat && c.toNat < 0x7f

def isOfKind (c : Char) : String → Bool
  | "alnum" => c.isAlphanum
  | "alpha" => c.isAlpha
  | "blank" => c == ' ' || c == '\t'
  | "cntrl" => c.toNat < 0x20 || c.toNat == 0x7f
  | "digit" => c.isDigit
  | "graph" => isPrintable c && c != ' '
  | "lower" => c.isLower
  | "print" => isPrintable c
  | "punct" => isPrintable c && c != ' ' && !c.isAlphanum
  | "space" => c == ' ' || (0x09 ≤ c.toNat && c.toNat ≤ 0x0d)
  | "upper" => c.isUpper
  | "xdigit" => c.isDigit || ('a' ≤ c && c ≤ 'f') || ('A' ≤ c && c ≤ 'F')
  | _ => false

def Item.admits (c : Char) : Item → Bool
  | .range first last => first ≤ c && c ≤ last
  | .kind name => isOfKind c name

def kinds : List String :=
  ["alnum", "alpha", "blank", "cntrl", "digit", "graph", "lower", "print", "punct", "space",
   "upper", "xdigit"]

/-- A kind of characters at the head of a pattern, after its opening bracket. -/
def kind? (p : Pattern) : Option (String × Pattern) :=
  match p with
  | ⟨':', false⟩ :: rest =>
    let letters := rest.takeWhile fun x => x.char.isAlpha
    let name := String.ofList (letters.map PatternChar.char)
    match rest.drop letters.length with
    | ⟨':', false⟩ :: ⟨']', false⟩ :: rest =>
      if kinds.contains name then some (name, rest) else none
    | _ => none
  | _ => none

/-- The items up to the closing bracket, which cannot come first, and what stands after it. -/
def items? : Nat → Bool → Pattern → Option (List Item × Pattern)
  | 0, _, _ => none
  | _, _, [] => none
  | fuel + 1, isFirst, a :: rest =>
    if a = ⟨']', false⟩ ∧ !isFirst then some ([], rest)
    else
      match if a = ⟨'[', false⟩ then kind? rest else none with
      | some (name, rest) =>
        (items? fuel false rest).map fun (items, rest) => (.kind name :: items, rest)
      | none =>
        match rest with
        | ⟨'-', false⟩ :: b :: after =>
          if b = ⟨']', false⟩ then
            (items? fuel false rest).map fun (items, rest) => (.range a.char a.char :: items, rest)
          else
            (items? fuel false after).map fun (items, rest) => (.range a.char b.char :: items, rest)
        | _ =>
          (items? fuel false rest).map fun (items, rest) => (.range a.char a.char :: items, rest)

/-- A bracket after its opening: whether it admits the others, what it holds, and what follows. -/
def bracket? (p : Pattern) : Option (Bool × List Item × Pattern) :=
  match p with
  | ⟨c, false⟩ :: rest =>
    if c = '!' ∨ c = '^' then
      (items? (p.length + 1) true rest).map fun (items, rest) => (true, items, rest)
    else (items? (p.length + 1) true p).map fun (items, rest) => (false, items, rest)
  | p => (items? (p.length + 1) true p).map fun (items, rest) => (false, items, rest)

/-- Whether the pattern stands for the text as a whole; `fuel` bounds the steps. -/
def matchesFrom : Nat → Pattern → Bytes → Bool
  | 0, _, _ => false
  | _ + 1, [], s => s.isEmpty
  | fuel + 1, ⟨'*', false⟩ :: p, s =>
    matchesFrom fuel p s ||
      match s with
      | [] => false
      | _ :: s => matchesFrom fuel (⟨'*', false⟩ :: p) s
  | _ + 1, _ :: _, [] => false
  | fuel + 1, ⟨'?', false⟩ :: p, _ :: s => matchesFrom fuel p s
  | fuel + 1, ⟨'[', false⟩ :: p, c :: s =>
    match bracket? p with
    | some (others, items, rest) =>
      (items.any (Item.admits c) != others) && matchesFrom fuel rest s
    | none => c == '[' && matchesFrom fuel p s
  | fuel + 1, x :: p, c :: s => x.char == c && matchesFrom fuel p s

/-- Each step takes a character off the pattern or off the text. -/
def covers (p : Pattern) (s : Bytes) : Bool := matchesFrom (p.length + s.length + 1) p s

/-- Whether the pattern may stand for more than one text. -/
def isActive (p : Pattern) : Bool :=
  p.any fun x => !x.quoted && (x.char == '*' || x.char == '?' || x.char == '[')

def toBytes (p : Pattern) : Bytes := p.map PatternChar.char

/-- The text without the shortest or longest part at its beginning that the pattern stands for. -/
def trimStart (p : Pattern) (longest : Bool) (s : Bytes) : Bytes :=
  let lengths := List.range (s.length + 1)
  match (if longest then lengths.reverse else lengths).find? fun n => p.covers (s.take n) with
  | some n => s.drop n
  | none => s

def trimEnd (p : Pattern) (longest : Bool) (s : Bytes) : Bytes :=
  let lengths := List.range (s.length + 1)
  match (if longest then lengths else lengths.reverse).find? fun n => p.covers (s.drop n) with
  | some n => s.take n
  | none => s

end Pattern
end Launcher.Shell

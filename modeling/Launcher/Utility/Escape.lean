import Launcher.Machine.Bytes
/-!
Characters that are written with a backslash. -/
namespace Launcher.Utility

/-- Which escapes there are. -/
structure EscapeStyle where
  /-- Hexadecimal numbers, the escape character, and quotes. -/
  extended : Bool
  /-- `\c` ends everything that is written. -/
  stops : Bool
  /-- Octal numbers may have a zero in front of three digits. -/
  zeroFirst : Bool
  deriving DecidableEq, Repr

/-- What a backslash stands for, together with what comes after it. -/
inductive Escape where
  | byte (c : Char) (rest : Bytes)
  | stop
  /-- It stands for itself. -/
  | plain
  deriving DecidableEq, Repr

namespace Escape

def digit? (base : Nat) (c : Char) : Option Nat :=
  let value :=
    if c.isDigit then c.toNat - '0'.toNat
    else if 'a' ≤ c ∧ c ≤ 'f' then c.toNat - 'a'.toNat + 10
    else if 'A' ≤ c ∧ c ≤ 'F' then c.toNat - 'A'.toNat + 10
    else base
  if value < base then some value else none

/-- The number that at most so many digits make, and what comes after them. -/
def number (base : Nat) : Nat → Nat → Bytes → Nat × Bytes
  | limit + 1, n, c :: s =>
    match digit? base c with
    | some d => number base limit (n * base + d) s
    | none => (n, c :: s)
  | _, n, s => (n, s)

def named? : Char → Option Char
  | 'a' => some '\x07'
  | 'b' => some '\x08'
  | 'f' => some '\x0c'
  | 'n' => some '\n'
  | 'r' => some '\r'
  | 't' => some '\t'
  | 'v' => some '\x0b'
  | '\\' => some '\\'
  | _ => none

def ofNumber (result : Nat × Bytes) : Escape := .byte (Char.ofNat (result.1 % 256)) result.2

/-- Reads what comes after a backslash. -/
def read (style : EscapeStyle) : Bytes → Escape
  | [] => .plain
  | c :: s =>
    match named? c with
    | some e => .byte e s
    | none =>
      if c = 'c' ∧ style.stops then .stop
      else if c = '0' ∧ style.zeroFirst then ofNumber (number 8 3 0 s)
      else if (digit? 8 c).isSome then ofNumber (number 8 3 0 (c :: s))
      else if !style.extended then .plain
      else if c = 'e' then .byte '\x1b' s
      else if c = '\x22' ∧ !style.zeroFirst then .byte c s
      else if c = 'x' ∧ (s.head?.bind (digit? 16)).isSome then ofNumber (number 16 2 0 s)
      else .plain

/-- The text without its escapes, and whether it ends everything; each step takes a character. -/
def replaceAll (style : EscapeStyle) : Nat → Bytes → Bytes × Bool
  | 0, s => (s, false)
  | _ + 1, [] => ([], false)
  | fuel + 1, c :: s =>
    let goOn (c : Char) (rest : Bytes) : Bytes × Bool :=
      let (text, stops) := replaceAll style fuel rest
      (c :: text, stops)
    if c = '\\' then
      match read style s with
      | .byte e rest => goOn e rest
      | .stop => ([], true)
      | .plain => goOn c s
    else goOn c s

def replaced (style : EscapeStyle) (s : Bytes) : Bytes × Bool := replaceAll style (s.length + 1) s

end Escape
end Launcher.Utility

/-!
ASCII letter case and digits. Every character beyond ASCII is left alone. -/
namespace Launcher.Text

def upperChar (c : Char) : Char :=
  if 'a' ≤ c ∧ c ≤ 'z' then Char.ofNat (c.toNat - 32) else c

def lowerChar (c : Char) : Char :=
  if 'A' ≤ c ∧ c ≤ 'Z' then Char.ofNat (c.toNat + 32) else c

def upperChars (s : List Char) : List Char := s.map upperChar

def lowerChars (s : List Char) : List Char := s.map lowerChar

/-- The value of a decimal digit. -/
def digit? (c : Char) : Option Nat :=
  if '0' ≤ c ∧ c ≤ '9' then some (c.toNat - 48) else none

/-- The value of a digit in a base of at most 16. -/
def baseDigit? (base : Nat) (c : Char) : Option Nat :=
  let value :=
    if '0' ≤ c ∧ c ≤ '9' then some (c.toNat - 48)
    else if 'a' ≤ c ∧ c ≤ 'f' then some (c.toNat - 87)
    else if 'A' ≤ c ∧ c ≤ 'F' then some (c.toNat - 55)
    else none
  value.filter (· < base)

def isDigit (c : Char) : Bool := (digit? c).isSome

/-- Reads a run of digits from the left, starting at `acc`. -/
def numeralFrom (base acc : Nat) : List Char → Option Nat
  | [] => some acc
  | c :: rest => (baseDigit? base c).bind fun d => numeralFrom base (base * acc + d) rest

/-- The number that a non-empty run of digits stands for. -/
def numeral? (base : Nat) : List Char → Option Nat
  | [] => none
  | s => numeralFrom base 0 s

end Launcher.Text

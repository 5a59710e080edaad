import Launcher.Text.Case
/-!
Program identifiers of 128 bits, and their hexadecimal texts. -/
namespace Launcher

structure ProgramId where
  bits : BitVec 128
  deriving DecidableEq, Repr

namespace ProgramId

def zero : ProgramId := ⟨0#128⟩

def isZero (id : ProgramId) : Bool := id = zero

def ofDigits? (s : List Char) : Option ProgramId :=
  if s.length = 32 then (Text.numeral? 16 s).map fun n => ⟨BitVec.ofNat 128 n⟩ else none

/-- Removes the hyphens of the form 8-4-4-4-12. -/
def withoutHyphens? (s : List Char) : Option (List Char) :=
  let part (i n : Nat) := (s.drop i).take n
  if s.length = 36 ∧ part 8 1 = ['-'] ∧ part 13 1 = ['-'] ∧ part 18 1 = ['-'] ∧ part 23 1 = ['-']
  then some (part 0 8 ++ part 9 4 ++ part 14 4 ++ part 19 4 ++ part 24 12)
  else none

def hyphenated? (s : List Char) : Option ProgramId := (withoutHyphens? s).bind ofDigits?

/-- Thirty-two digits, or the hyphenated form: bare, in braces, or after `urn:uuid:`. Digits may be
of either letter case. -/
def parse? (s : List Char) : Option ProgramId :=
  match s.length with
  | 32 => ofDigits? s
  | 36 => hyphenated? s
  | 38 =>
    if s.head? = some '\x7b' ∧ s.getLast? = some '\x7d' then hyphenated? (s.drop 1).dropLast
    else none
  | 45 => if s.take 9 = "urn:uuid:".toList then hyphenated? (s.drop 9) else none
  | _ => none

/-- All 32 digits, leading zeros included. -/
def digits (id : ProgramId) : List Char :=
  let d := Nat.toDigits 16 id.bits.toNat
  List.replicate (32 - d.length) '0' ++ d

def renderChars (id : ProgramId) : List Char :=
  let part (i n : Nat) := (id.digits.drop i).take n
  part 0 8 ++ '-' :: part 8 4 ++ '-' :: part 12 4 ++ '-' :: part 16 4 ++ '-' :: part 20 12

/-- Lower case, hyphenated. -/
def render (id : ProgramId) : String := String.ofList id.renderChars

end ProgramId
end Launcher

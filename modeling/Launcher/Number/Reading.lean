import Launcher.Number.Binary64
import Launcher.Text.Case
/-!
The text of a floating-point number: an optional sign, then `inf`, `infinity` or `nan` in any letter
case, or decimal digits with at most one point and an optional exponent. At least one digit stands
before or after the point. -/
namespace Launcher.Number

/-- A decimal number before rounding: `digits * 10 ^ exponent`. -/
structure Scientific where
  digits : Nat
  exponent : Int
  deriving DecidableEq, Repr

/-- `e` or `E`, then digits with an optional sign; or nothing. -/
def exponent? : List Char → Option Int
  | [] => some 0
  | c :: s =>
    if c = 'e' ∨ c = 'E' then
      match s with
      | '+' :: t => (Text.numeral? 10 t).map fun n => (n : Int)
      | '-' :: t => (Text.numeral? 10 t).map fun n => -(n : Int)
      | t => (Text.numeral? 10 t).map fun n => (n : Int)
    else none

/-- The digits, the point and the exponent of an unsigned number. -/
def scientific? (s : List Char) : Option Scientific :=
  let whole := s.takeWhile Text.isDigit
  let rest := s.dropWhile Text.isDigit
  let (fraction, rest) :=
    match rest with
    | '.' :: t => (t.takeWhile Text.isDigit, t.dropWhile Text.isDigit)
    | t => ([], t)
  (Text.numeral? 10 (whole ++ fraction)).bind fun digits =>
    (exponent? rest).map fun e => ⟨digits, e - fraction.length⟩

def Scientific.round (negative : Bool) (x : Scientific) : Binary64 :=
  Binary64.ofDecimal negative x.digits x.exponent

def unsigned? (negative : Bool) (s : List Char) : Option Binary64 :=
  let lower := Text.lowerChars s
  if lower = "inf".toList ∨ lower = "infinity".toList then some (.infinite negative)
  else if lower = "nan".toList then some .nan
  else (scientific? s).map (Scientific.round negative)

def real? : List Char → Option Binary64
  | '+' :: s => unsigned? false s
  | '-' :: s => unsigned? true s
  | s => unsigned? false s

end Launcher.Number

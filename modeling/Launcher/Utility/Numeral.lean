import Launcher.Machine.Bytes
import Launcher.Number.Reading
import Launcher.Utility.Escape
/-!
Numbers at the beginning of texts, as programs read and write them. -/
namespace Launcher.Utility

/-- A number that was read, what comes after it, and whether it was cut to the greatest number. -/
structure Numeral (α : Type) where
  value : α
  rest : Bytes
  cut : Bool

namespace Numeral

def isSpace (c : Char) : Bool := [' ', '\t', '\n', '\x0b', '\x0c', '\r'].contains c

def dropSpaces (s : Bytes) : Bytes := s.dropWhile isSpace

def splitSign : Bytes → Bool × Bytes
  | '-' :: s => (true, s)
  | '+' :: s => (false, s)
  | s => (false, s)

/-- The base that the beginning of a number shows, and the number without that. -/
def splitBase : Bytes → Nat × Bytes
  | '0' :: x :: d :: s =>
    if (x = 'x' ∨ x = 'X') ∧ (Escape.digit? 16 d).isSome then (16, d :: s)
    else (8, '0' :: x :: d :: s)
  | '0' :: s => (8, '0' :: s)
  | s => (10, s)

/-- The greatest and the least number of 64 bits. -/
def greatest : Int := Nat.pow 2 63 - 1
def least : Int := -Nat.pow 2 63
def greatestUnsigned : Int := Nat.pow 2 64 - 1

/-- The magnitude at the beginning of a text after blanks and a sign, or none. -/
def magnitude? (anyBase : Bool) (s : Bytes) : Option (Bool × Nat × Bytes) :=
  let (negative, unsigned) := splitSign (dropSpaces s)
  let (base, digits) := if anyBase then splitBase unsigned else (10, unsigned)
  if (digits.head?.bind (Escape.digit? base)).isSome then
    let (n, rest) := Escape.number base digits.length 0 digits
    some (negative, n, rest)
  else none

/-- A signed number; without digits it is zero and nothing is read. -/
def signed (anyBase : Bool) (s : Bytes) : Numeral Int :=
  match magnitude? anyBase s with
  | none => ⟨0, s, false⟩
  | some (negative, n, rest) =>
    let value : Int := if negative then -(n : Int) else n
    if value > greatest then ⟨greatest, rest, true⟩
    else if value < least then ⟨least, rest, true⟩
    else ⟨value, rest, false⟩

/-- A number without sign; a negative one is counted back from zero. -/
def unsigned (s : Bytes) : Numeral Int :=
  match magnitude? true s with
  | none => ⟨0, s, false⟩
  | some (negative, n, rest) =>
    if (n : Int) > greatestUnsigned then ⟨greatestUnsigned, rest, true⟩
    else ⟨(if negative then -(n : Int) else n) % (greatestUnsigned + 1), rest, false⟩

/-- The length of the decimal number at the beginning of a text. -/
def decimalLength (s : Bytes) : Nat :=
  let whole := s.takeWhile Char.isDigit
  let rest := s.drop whole.length
  let fraction :=
    match rest with
    | '.' :: t => '.' :: t.takeWhile Char.isDigit
    | _ => []
  if whole.isEmpty ∧ fraction.length ≤ 1 then 0
  else
    let rest := rest.drop fraction.length
    let exponent :=
      match rest with
      | e :: t =>
        let (_, digits) := splitSign t
        let digits := digits.takeWhile Char.isDigit
        if (e = 'e' ∨ e = 'E') ∧ !digits.isEmpty then
          1 + (t.length - (splitSign t).2.length) + digits.length
        else 0
      | [] => 0
    whole.length + fraction.length + exponent

/-- The number that one of the words for it begins a text with. -/
def special? (s : Bytes) : Option (Nat × (Bool → Number.Binary64)) :=
  let lower := s.map Char.toLower
  let begins (word : String) : Bool := lower.take word.length == word.toList
  if begins "infinity" then some (8, .infinite)
  else if begins "inf" then some (3, .infinite)
  else if begins "nan" then some (3, fun _ => .nan)
  else none

/-- A number with a fraction. -/
def real (s : Bytes) : Numeral Number.Binary64 :=
  let (negative, unsigned) := splitSign (dropSpaces s)
  match special? unsigned with
  | some (length, value) => ⟨value negative, unsigned.drop length, false⟩
  | none =>
    let length := decimalLength unsigned
    match (Number.scientific? (unsigned.take length)).map (Number.Scientific.round negative) with
    | some value => ⟨value, unsigned.drop length, !value.isFinite⟩
    | none => ⟨.zero false, s, false⟩

end Numeral

/-! ### Writing -/

/-- Digits with at least so many of them. -/
def atLeast (count : Nat) (digits : Bytes) : Bytes :=
  List.replicate (count - digits.length) '0' ++ digits

/-- `num / den`, rounded to so many digits after the point. -/
def fixedDigits (num den precision : Nat) (keepsPoint : Bool) : Bytes :=
  let n := Number.divHalfEven (num * Nat.pow 10 precision) den
  let digits := atLeast (precision + 1) (Nat.toDigits 10 n)
  let whole := digits.take (digits.length - precision)
  let fraction := digits.drop (digits.length - precision)
  if fraction.isEmpty then if keepsPoint then whole ++ ['.'] else whole
  else whole ++ '.' :: fraction

/-- The digits of `num / den` with one in front of the point and so many after it, and the power of
ten that they are to be multiplied with. -/
def scientificDigits (num den precision : Nat) : Bytes × Int :=
  if num = 0 then (List.replicate (precision + 1) '0', 0)
  else
    let guess : Int := (Nat.toDigits 10 num).length - (Nat.toDigits 10 den).length
    let isBelow (e : Int) : Bool := num * Nat.pow 10 (-e).toNat < den * Nat.pow 10 e.toNat
    let e := if isBelow guess then guess - 1 else guess
    let shift : Int := precision - e
    let n := Number.divHalfEven (num * Nat.pow 10 shift.toNat) (den * Nat.pow 10 (-shift).toNat)
    let digits := Nat.toDigits 10 n
    if digits.length > precision + 1 then (digits.take (precision + 1), e + 1) else (digits, e)

def withPoint (digits : Bytes) (keepsPoint : Bool) : Bytes :=
  match digits with
  | [] => []
  | [d] => if keepsPoint then [d, '.'] else [d]
  | d :: rest => d :: '.' :: rest

/-- The sign and at least two digits. -/
def exponentText (e : Int) : Bytes :=
  (if e < 0 then '-' else '+') :: atLeast 2 (Nat.toDigits 10 e.natAbs)

def trimZeros (digits : Bytes) : Bytes :=
  if digits.contains '.' then
    let short := (digits.reverse.dropWhile (· == '0')).reverse
    if short.getLast? = some '.' then short.dropLast else short
  else digits

/-- How a number with a fraction is written. -/
inductive RealStyle where
  | fixed
  | scientific
  /-- Whichever is shorter. -/
  | general
  deriving DecidableEq, Repr

/-- The text of `num / den`. -/
def realText (style : RealStyle) (num den precision : Nat) (keepsPoint : Bool) : Bytes :=
  match style with
  | .fixed => fixedDigits num den precision keepsPoint
  | .scientific =>
    let (digits, e) := scientificDigits num den precision
    withPoint digits keepsPoint ++ 'e' :: exponentText e
  | .general =>
    let precision := max precision 1
    let (digits, e) := scientificDigits num den (precision - 1)
    let trim (s : Bytes) : Bytes := if keepsPoint then s else trimZeros s
    if -4 ≤ e ∧ e < precision then
      trim (fixedDigits num den ((precision : Int) - 1 - e).toNat keepsPoint)
    else trim (withPoint digits keepsPoint) ++ 'e' :: exponentText e

end Launcher.Utility

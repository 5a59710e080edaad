import Launcher.Number.Shortest
/-!
How a floating-point number is laid out as text, as a record of decisions, and the text itself. -/
namespace Launcher.Number

/-- The decisions of one text format. Exponents here are those of the leading digit. -/
structure Layout where
  /-- The least exponent that is written positionally. -/
  plainFrom : Int
  /-- The least exponent beyond the positional ones. -/
  plainBelow : Int
  /-- Whether a positive exponent carries its sign. -/
  plusSign : Bool
  /-- Which of two equally near shortest decimals is written. -/
  tie : Tie
  nan : String
  infinity : String

/-- The digits of a positive decimal, with a point after `point` of them. -/
def positional (digits : List Char) (point : Int) : List Char :=
  if point ≤ 0 then
    '0' :: '.' :: (List.replicate (-point).toNat '0' ++ digits)
  else if point < digits.length then
    digits.take point.toNat ++ '.' :: digits.drop point.toNat
  else
    digits ++ List.replicate (point.toNat - digits.length) '0' ++ ['.', '0']

def exponentChars (layout : Layout) (e : Int) : List Char :=
  if e < 0 then '-' :: Nat.toDigits 10 e.natAbs
  else if layout.plusSign then '+' :: Nat.toDigits 10 e.natAbs
  else Nat.toDigits 10 e.natAbs

def scientificChars (layout : Layout) (digits : List Char) (e : Int) : List Char :=
  match digits with
  | [] => []
  | [d] => d :: 'e' :: exponentChars layout e
  | d :: rest => d :: '.' :: rest ++ 'e' :: exponentChars layout e

/-- The text of `m * 2 ^ q`. -/
def magnitudeChars (layout : Layout) (m : Nat) (q : Int) : List Char :=
  if m = 0 then ['0', '.', '0']
  else
    let d := shortest layout.tie m q
    let digits := Nat.toDigits 10 d.digits
    let e := d.exponent + digits.length - 1
    if layout.plainFrom ≤ e ∧ e < layout.plainBelow then positional digits (e + 1)
    else scientificChars layout digits e

def Layout.chars (layout : Layout) : Binary64 → List Char
  | .nan => layout.nan.toList
  | .infinite negative => if negative then '-' :: layout.infinity.toList else layout.infinity.toList
  | .finite negative m q =>
    if negative then '-' :: magnitudeChars layout m q else magnitudeChars layout m q

def Layout.render (layout : Layout) (x : Binary64) : String := String.ofList (layout.chars x)

end Launcher.Number

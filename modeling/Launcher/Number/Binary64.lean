/-!
Binary floating-point numbers of 64 bits, as exact values `significand * 2 ^ exponent`, and the
rounding of ratios to the nearest of them. Nothing here uses machine floats, so every definition
can be computed in proofs. -/
namespace Launcher.Number

/-- Finite values carry their significand in canonical form: below `2 ^ 53`, and at least `2 ^ 52`
unless the exponent is the least one, -1074. There is one not-a-number. -/
inductive Binary64 where
  | finite (negative : Bool) (significand : Nat) (exponent : Int)
  | infinite (negative : Bool)
  | nan
  deriving DecidableEq, Repr, Inhabited

/-- The quotient rounded to the nearest natural number, a tie to the even neighbour. -/
def divHalfEven (num den : Nat) : Nat :=
  let q := num / den
  let r := num % den
  if 2 * r < den then q
  else if den < 2 * r then q + 1
  else if q % 2 = 0 then q else q + 1

namespace Binary64

def leastExponent : Int := -1074

def greatestExponent : Int := 971

def zero (negative : Bool) : Binary64 := .finite negative 0 leastExponent

/-- `num / den` in units of `2 ^ q`, as a fraction of naturals. -/
def scaled (num den : Nat) (q : Int) : Nat × Nat :=
  (num * Nat.pow 2 (-q).toNat, den * Nat.pow 2 q.toNat)

/-- The exponent at which the quotient has 53 bits, or the least exponent for smaller ones. -/
def exponentOf (num den : Nat) : Int :=
  let guess := (num.log2 : Int) - (den.log2 : Int) - 53
  let at53 (q : Int) : Bool :=
    let (n, d) := scaled num den q
    n < d * Nat.pow 2 53
  let q := if at53 guess then guess else guess + 1
  max q leastExponent

/-- The value nearest to `num / den`, a tie to the even significand; beyond the greatest finite
value, infinity. -/
def ofRatio (negative : Bool) (num den : Nat) : Binary64 :=
  if num = 0 then zero negative
  else
    let q := exponentOf num den
    let (n, d) := scaled num den q
    let m := divHalfEven n d
    let (m, q) := if m = Nat.pow 2 53 then (Nat.pow 2 52, q + 1) else (m, q)
    if q > greatestExponent then .infinite negative else .finite negative m q

def ofNat (n : Nat) : Binary64 := ofRatio false n 1

/-- The number of decimal digits of `n`. -/
def decimalWidth (n : Nat) : Nat := (Nat.toDigits 10 n).length

/-- The value nearest to `digits * 10 ^ exponent`. Far outside the range of the format the
result is known without computing the power. -/
def ofDecimal (negative : Bool) (digits : Nat) (exponent : Int) : Binary64 :=
  if digits = 0 then zero negative
  else
    let magnitude := exponent + decimalWidth digits
    if magnitude > 400 then .infinite negative
    else if magnitude < -400 then zero negative
    else ofRatio negative (digits * Nat.pow 10 exponent.toNat) (Nat.pow 10 (-exponent).toNat)

def isFinite : Binary64 → Bool
  | .finite .. => true
  | _ => false

end Binary64
end Launcher.Number

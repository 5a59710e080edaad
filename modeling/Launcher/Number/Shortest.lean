import Launcher.Number.Binary64
/-!
The fewest decimal digits that identify a positive value `m * 2 ^ q`: the decimal must lie among
the reals that round to the value, and of the decimals with the fewest digits the nearest is
taken. -/
namespace Launcher.Number

/-- What to do when two shortest decimals are equally near. -/
inductive Tie where
  | up
  | even
  deriving DecidableEq, Repr

/-- `digits * 10 ^ exponent` -/
structure Decimal where
  digits : Nat
  exponent : Int
  deriving DecidableEq, Repr

/-- Compares `a * 10 ^ i` with `n * 2 ^ j`. -/
def compareScaled (a : Nat) (i : Int) (n : Nat) (j : Int) : Ordering :=
  compare (a * Nat.pow 10 i.toNat * Nat.pow 2 (-j).toNat)
    (n * Nat.pow 2 j.toNat * Nat.pow 10 (-i).toNat)

/-- Whether the decimal rounds to `m * 2 ^ q`. Below a power of two the gap to the next value is
half as wide; the ends of the interval belong to it when the significand is even. -/
def readsBack (m : Nat) (q : Int) (d : Decimal) : Bool :=
  let narrow := m = Nat.pow 2 52 ∧ q > Binary64.leastExponent
  let low := if narrow then 4 * m - 1 else 4 * m - 2
  let high := 4 * m + 2
  let closed := m % 2 = 0
  let atLow := compareScaled d.digits d.exponent low (q - 2)
  let atHigh := compareScaled d.digits d.exponent high (q - 2)
  (atLow = .gt ∨ (closed ∧ atLow = .eq)) ∧ (atHigh = .lt ∨ (closed ∧ atHigh = .eq))

/-- The whole number of units `10 ^ k` in `m * 2 ^ q`. -/
def floorUnits (m : Nat) (q k : Int) : Nat :=
  (m * Nat.pow 2 q.toNat * Nat.pow 10 (-k).toNat) / (Nat.pow 2 (-q).toNat * Nat.pow 10 k.toNat)

/-- The least `k` with `m * 2 ^ q < 10 ^ k`: an estimate from the bits, then exact steps. -/
def scaleOf (m : Nat) (q : Int) : Int :=
  let estimate := ((m.log2 : Int) + q) * 30103 / 100000
  let below (k : Int) : Bool := compareScaled 1 k m q = .gt
  if below (estimate - 1) then estimate - 1
  else if below estimate then estimate
  else if below (estimate + 1) then estimate + 1
  else estimate + 2

/-- The better neighbour of the value on the grid of units `10 ^ k`, if one reads back. -/
def onGrid (tie : Tie) (m : Nat) (q k : Int) : Option Decimal :=
  let n := floorUnits m q k
  let low : Decimal := ⟨n, k⟩
  let high : Decimal := ⟨n + 1, k⟩
  match readsBack m q low, readsBack m q high with
  | true, true =>
    -- Twice the value against the sum of its neighbours.
    match compareScaled (2 * n + 1) k (2 * m) q with
    | .gt => some low
    | .lt => some high
    | .eq =>
      match tie with
      | .up => some high
      | .even => if n % 2 = 0 then some low else some high
  | true, false => some low
  | false, true => some high
  | false, false => none

/-- The exact decimal value, which always reads back. -/
def exactDecimal (m : Nat) (q : Int) : Decimal :=
  if 0 ≤ q then ⟨m * Nat.pow 2 q.toNat, 0⟩ else ⟨m * Nat.pow 5 (-q).toNat, q⟩

/-- Moves trailing zeros of the digits into the exponent. -/
def stripZeros : Nat → Decimal → Decimal
  | 0, d => d
  | fuel + 1, d =>
    if d.digits ≠ 0 ∧ d.digits % 10 = 0 then stripZeros fuel ⟨d.digits / 10, d.exponent + 1⟩ else d

/-- Seventeen digits always identify a value, so seventeen grids are tried. -/
def shortest (tie : Tie) (m : Nat) (q : Int) : Decimal :=
  let k := scaleOf m q
  let found := (List.range 17).findSome? fun (n : Nat) => onGrid tie m q (k - ((n + 1 : Nat) : Int))
  stripZeros 20 (found.getD (exactDecimal m q))

end Launcher.Number

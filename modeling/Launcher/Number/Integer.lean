import Launcher.Text.Case
/-!
Decimal integers with an optional sign, read within bounds. -/
namespace Launcher.Number

/-- The bounds of a signed integer of the given width. -/
def fits (bits : Nat) (i : Int) : Bool :=
  -(Nat.pow 2 (bits - 1) : Int) ≤ i && i < Nat.pow 2 (bits - 1)

/-- A sign, or none, before at least one digit. -/
def signed? : List Char → Option Int
  | '+' :: s => (Text.numeral? 10 s).map fun n => (n : Int)
  | '-' :: s => (Text.numeral? 10 s).map fun n => -(n : Int)
  | s => (Text.numeral? 10 s).map fun n => (n : Int)

/-- A decimal integer that fits the width; leading zeros are fine. -/
def integer? (bits : Nat) (s : List Char) : Option Int := (signed? s).filter (fits bits)

end Launcher.Number

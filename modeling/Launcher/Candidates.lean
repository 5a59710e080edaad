import Launcher.Value
/-!
The acceptable values of a parameter: a list, or a range of integers with both ends. The number of
candidates is a 64-bit word and stays at its greatest value when there are more. -/
namespace Launcher

inductive Candidates where
  | list (values : List Value)
  | range (first last : Int)
  deriving DecidableEq, Repr

namespace Candidates

def greatestCount : Nat := Nat.pow 2 64 - 1

/-- The number of integers from `first` to `last`. -/
def span (first last : Int) : Nat := (last - first + 1).toNat

/-- How many candidates there are; a repeated value counts as often as it is listed. -/
def count : Candidates → Nat
  | .list values => values.length
  | .range first last => min (span first last) greatestCount

def isEmpty (c : Candidates) : Bool := c.count == 0

/-- The only candidate. -/
def single (c : Candidates) : Option Value :=
  if c.count = 1 then
    match c with
    | .list values => values.head?
    | .range first _ => some (.integer first)
  else none

/-- All candidates in order, a range written out. -/
def values : Candidates → List Value
  | .list values => values
  | .range first last => (List.range (span first last)).map fun (n : Nat) => .integer (first + n)

def render : Candidates → String
  | .list values => ", ".intercalate (values.map Value.render)
  | .range first last => s!"{first}..{last}"

end Candidates
end Launcher

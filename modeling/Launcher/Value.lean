import Launcher.Address
import Launcher.Text.Json
/-!
Typed parameter values, their text on a command line, and their JSON. -/
namespace Launcher

/-- Values keep their type until they are chosen; only then they become text. -/
inductive Value where
  | text (s : String)
  | integer (i : Int)
  | real (x : Number.Binary64)
  | boolean (b : Bool)
  | address (a : Address)
  | path (p : String)
  deriving DecidableEq, Repr

namespace Value

/-- Numbers are positional from 0.0001 up to `10 ^ 16`, and whole ones keep a zero after the
point. -/
def realLayout : Number.Layout :=
  { plainFrom := -4, plainBelow := 16, plusSign := false, tie := .up, nan := "NaN",
    infinity := "inf" }

/-- The one text that stands for the value on a command line. -/
def render : Value → String
  | .text s => s
  | .integer i => toString i
  | .real x => realLayout.render x
  | .boolean b => if b then "true" else "false"
  | .address a => a.render
  | .path p => p

def toJson : Value → Json
  | .text s => .str s
  | .integer i => .int i
  | .real x => .real x
  | .boolean b => .bool b
  | .address a => .str a.render
  | .path p => .str p

end Value
end Launcher

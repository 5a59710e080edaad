import Launcher.Number.Reading
import Launcher.Text.Blank
/-!
Spans of time in nanoseconds, and the texts that give one in seconds. -/
namespace Launcher

structure Duration where
  seconds : Nat
  nanos : Nat
  nanos_lt : nanos < 1000000000 := by omega
  deriving DecidableEq, Repr

namespace Duration

def ofNanos (n : Nat) : Duration :=
  ⟨n / 1000000000, n % 1000000000, Nat.mod_lt n (by decide)⟩

def toNanos (d : Duration) : Nat := d.seconds * 1000000000 + d.nanos

/-- Why a number of seconds is no duration. -/
inductive RangeError where
  | negative
  | tooBigOrNaN
  deriving DecidableEq, Repr

def RangeError.message : RangeError → String
  | .negative => "cannot convert float seconds to Duration: value is negative"
  | .tooBigOrNaN => "cannot convert float seconds to Duration: value is either too big or NaN"

/-- `m * 2 ^ q` seconds in nanoseconds, rounded to the nearest, a tie to the even one. -/
def nanosOf (m : Nat) (q : Int) : Nat :=
  Number.divHalfEven (m * 1000000000 * Nat.pow 2 q.toNat) (Nat.pow 2 (-q).toNat)

/-- Seconds must be below `2 ^ 64`; the negative zero is zero. -/
def ofSeconds : Number.Binary64 → Except RangeError Duration
  | .nan => .error .tooBigOrNaN
  | .infinite negative => .error (if negative then .negative else .tooBigOrNaN)
  | .finite negative m q =>
    if negative ∧ m ≠ 0 then .error .negative
    else if Nat.pow 2 64 * Nat.pow 2 (-q).toNat ≤ m * Nat.pow 2 q.toNat then .error .tooBigOrNaN
    else .ok (ofNanos (nanosOf m q))

/-- Why a text is no timeout. -/
inductive ReadError where
  | notANumber (raw : String)
  | outOfRange (raw : String) (cause : RangeError)
  deriving DecidableEq, Repr

def ReadError.message : ReadError → String
  | .notANumber raw => s!"'{raw}' is not a number of seconds"
  | .outOfRange raw cause => s!"invalid timeout '{raw}': {cause.message}"

/-- Reads a number of seconds, without regard to outer white space. -/
def parse (raw : String) : Except ReadError Duration :=
  match Number.real? (Text.trimChars raw.toList) with
  | none => .error (.notANumber raw)
  | some x =>
    match ofSeconds x with
    | .ok d => .ok d
    | .error e => .error (.outOfRange raw e)

end Duration
end Launcher

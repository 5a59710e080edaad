import Launcher.Toml.Value
import Launcher.Number.Reading
/-!
Unquoted TOML values: booleans, integers in four bases, floating-point numbers, dates and times. -/
namespace Launcher.Toml

/-- Removes underscores, each of which must stand between two characters that count as digits;
`ready` says that the character before is one. -/
def joinDigits? (isDigit : Char → Bool) (ready : Bool) : List Char → Option (List Char)
  | [] => some []
  | ['_'] => none
  | '_' :: c :: s =>
    if ready && isDigit c then (joinDigits? isDigit true s).map (c :: ·) else none
  | c :: s => (joinDigits? isDigit (isDigit c) s).map (c :: ·)

def isHexDigit (c : Char) : Bool := (Text.baseDigit? 16 c).isSome

/-- A run of digits and underscores, without its underscores. A sign in front counts as a digit
for an underscore right after it. -/
def digits? (signed : Bool) (s : List Char) : Option (List Char) :=
  (joinDigits? Text.isDigit signed s).filter fun d => !d.isEmpty && d.all Text.isDigit

/-- Whether a zero in front of other digits is superfluous. -/
def startsPlainly (s digits : List Char) : Bool := digits.length == 1 || s.head? != some '0'

/-- What stands before and after the first character of the kind, which is left out. -/
def cutWhere (p : Char → Bool) (s : List Char) : List Char × Option (List Char) :=
  match s.dropWhile (fun c => !p c) with
  | [] => (s, none)
  | _ :: after => (s.takeWhile (fun c => !p c), some after)

def exponentDigits? (s : List Char) : Option Int :=
  let unsigned (s : List Char) := (digits? false s).bind (Text.numeral? 10)
  match s with
  | '+' :: s => (unsigned s).map fun n => (n : Int)
  | '-' :: s => (unsigned s).map fun n => -(n : Int)
  | s => (unsigned s).map fun n => (n : Int)

/-- A value that was written with digits must not be infinite. -/
def ofRounded (x : Number.Binary64) : Value := if x.isFinite then .real x else .unreadable

/-- A number with a fraction, an exponent, or both. -/
def decimal? (signed negative : Bool) (s : List Char) : Option Value := do
  let (mantissa, exponent) := cutWhere (fun c => c == 'e' || c == 'E') s
  let (written, fraction) := cutWhere (· == '.') mantissa
  let whole ← (digits? signed written).filter (startsPlainly written)
  let fraction ← match fraction with
    | none => if exponent.isNone then none else some []
    | some f => digits? false f
  let exponent ← match exponent with
    | none => some 0
    | some e => exponentDigits? e
  let digits ← Text.numeral? 10 (whole ++ fraction)
  return ofRounded (Number.Binary64.ofDecimal negative digits (exponent - fraction.length))

/-- An integer whose base is written in front. -/
def prefixed? (base : Nat) (s : List Char) : Option Value :=
  let isDigit (c : Char) := (Text.baseDigit? base c).isSome
  ((joinDigits? isDigit false s).filter (·.all isDigit)).map fun digits =>
    match Text.numeral? base digits with
    | some n => .integer n
    | none => .unreadable

/-- A decimal integer: digits, or digits that go on with an underscore. Digits beside an underscore
may be hexadecimal as far as its form goes. -/
def integer? (signed negative : Bool) (s : List Char) : Option Value :=
  let rest := s.dropWhile Text.isDigit
  if s.isEmpty || !(rest.isEmpty || rest.head? == some '_') || rest.contains ' ' ||
      rest.any (fun c => c == '.' || c == 'e' || c == 'E') then none
  else
    ((joinDigits? isHexDigit signed s).filter fun _ => s.length == 1 || s.head? != some '0').map
      fun digits =>
        match Text.numeral? 10 digits with
        | some n => .integer (if negative then -(n : Int) else n)
        | none => .unreadable

def unsignedNumber? (signed negative : Bool) (s : List Char) : Option Value :=
  if s = "inf".toList then some (.real (.infinite negative))
  else if s = "nan".toList then some (.real .nan)
  else (integer? signed negative s).or (decimal? signed negative s)

def number? : List Char → Option Value
  | '+' :: s => unsignedNumber? true false s
  | '-' :: s => unsignedNumber? true true s
  | '0' :: 'x' :: s => prefixed? 16 s
  | '0' :: 'o' :: s => prefixed? 8 s
  | '0' :: 'b' :: s => prefixed? 2 s
  | s => unsignedNumber? false false s

/-! ### Dates and times -/

/-- A number of exactly so many digits at the head of a text. -/
def fixed? (width : Nat) (s : List Char) : Option (Nat × List Char) :=
  let head := s.take width
  if head.length = width then (Text.numeral? 10 head).map fun n => (n, s.drop width) else none

def isLeap (year : Nat) : Bool := year % 4 == 0 && (year % 100 != 0 || year % 400 == 0)

def daysOf (year month : Nat) : Nat :=
  if month = 2 then if isLeap year then 29 else 28
  else if [4, 6, 9, 11].contains month then 30
  else 31

def expect (c : Char) : List Char → Option (List Char)
  | d :: s => if c = d then some s else none
  | [] => none

def padded (width n : Nat) : List Char :=
  let d := Nat.toDigits 10 n
  List.replicate (width - d.length) '0' ++ d

/-- A date at the head of a text, in its standard form, and the rest. -/
def date? (s : List Char) : Option (List Char × List Char) := do
  let (year, s) ← fixed? 4 s
  let s ← expect '-' s
  let (month, s) ← fixed? 2 s
  let s ← expect '-' s
  let (day, s) ← fixed? 2 s
  if 1 ≤ month ∧ month ≤ 12 ∧ 1 ≤ day ∧ day ≤ daysOf year month then
    return (padded 4 year ++ '-' :: padded 2 month ++ '-' :: padded 2 day, s)
  else none

/-- Seconds with an optional fraction, of which nine digits count. -/
def seconds? (s : List Char) : Option (List Char × List Char) := do
  let (second, s) ← fixed? 2 s
  if second > 60 then none
  else
    match s with
    | '.' :: t =>
      let fraction := t.takeWhile Text.isDigit
      if fraction.isEmpty then none
      else
        let kept := ((fraction.take 9).reverse.dropWhile (· == '0')).reverse
        let shown := if kept.isEmpty then [] else '.' :: kept
        return (padded 2 second ++ shown, t.dropWhile Text.isDigit)
    | _ => return (padded 2 second, s)

/-- A time of day at the head of a text. Seconds may be left out. -/
def time? (s : List Char) : Option (List Char × List Char) := do
  let (hour, s) ← fixed? 2 s
  let s ← expect ':' s
  let (minute, s) ← fixed? 2 s
  if hour > 23 ∨ minute > 59 then none
  else
    match s with
    | ':' :: t =>
      let (second, t) ← seconds? t
      return (padded 2 hour ++ ':' :: padded 2 minute ++ ':' :: second, t)
    | _ => return (padded 2 hour ++ ':' :: padded 2 minute ++ [':', '0', '0'], s)

/-- The distance from universal time, or nothing. -/
def offset? (s : List Char) : Option (List Char) :=
  match s with
  | [] => some []
  | [c] => if c = 'Z' ∨ c = 'z' then some ['Z'] else none
  | sign :: s => do
    if sign ≠ '+' ∧ sign ≠ '-' then none
    else
      let (hour, s) ← fixed? 2 s
      let s ← expect ':' s
      let (minute, s) ← fixed? 2 s
      if hour > 23 ∨ minute > 59 ∨ !s.isEmpty then none
      else return sign :: padded 2 hour ++ ':' :: padded 2 minute

def isTimeMark (c : Char) : Bool := c == 'T' || c == 't' || c == ' '

/-- A date, a time of day, or both with an optional offset. -/
def datetime? (s : List Char) : Option (List Char) :=
  match date? s with
  | some (date, []) => some date
  | some (date, mark :: rest) =>
    if isTimeMark mark then do
      let (time, rest) ← time? rest
      let offset ← offset? rest
      return date ++ 'T' :: time ++ offset
    else none
  | none =>
    match time? s with
    | some (time, []) => some time
    | _ => none

/-- The value of an unquoted word. -/
def scalar? (s : List Char) : Option Value :=
  if s = "true".toList then some (.boolean true)
  else if s = "false".toList then some (.boolean false)
  else
    match number? s with
    | some v => some v
    | none => (datetime? s).map fun d => .datetime (String.ofList d)

/-- Whether the word is a date, which a time may follow after one blank. -/
def isDate (s : List Char) : Bool := (date? s).any fun r => r.2.isEmpty

end Launcher.Toml

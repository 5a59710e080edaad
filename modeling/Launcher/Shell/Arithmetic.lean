import Launcher.Shell.Script
import Launcher.Text.Case
/-!
Arithmetic of a shell: expressions over signed 64-bit integers, which wrap around, and over the
variables of a script. -/
namespace Launcher.Shell

namespace Arithmetic

inductive Operation where
  | times | dividedBy | modulo | plus | minus | shiftLeft | shiftRight | less | lessEqual | greater
  | greaterEqual | equal | unequal | bitAnd | bitXor | bitOr
  deriving DecidableEq, Repr

/-- Operations of a lower rank come first. -/
def Operation.rank : Operation → Nat
  | .times | .dividedBy | .modulo => 0
  | .plus | .minus => 1
  | .shiftLeft | .shiftRight => 2
  | .less | .lessEqual | .greater | .greaterEqual => 3
  | .equal | .unequal => 4
  | .bitAnd => 5
  | .bitXor => 6
  | .bitOr => 7

inductive Expression where
  | number (n : Int)
  | named (name : Bytes)
  | negative (e : Expression)
  | complement (e : Expression)
  | denied (e : Expression)
  | binary (operation : Operation) (left right : Expression)
  | both (left right : Expression)
  | either (left right : Expression)
  | choice (test yes no : Expression)
  /-- With the operation that takes the old value, if there is one. -/
  | assigned (name : Bytes) (operation : Option Operation) (value : Expression)
  deriving Repr

/-- What is wrong with an expression. -/
inductive Fault where
  | expected (what : String)
  | divisionByZero
  /-- The value of a variable. -/
  | noNumber (text : Bytes)
  deriving DecidableEq, Repr

/-! ### Tokens -/

inductive Token where
  | number (n : Int)
  | name (s : Bytes)
  | sign (s : String)
  /-- A character that no expression has; nothing is read after it. -/
  | unknown
  deriving DecidableEq, Repr

def greatest : Int := Nat.pow 2 63 - 1

/-- Signs that are read, longer ones first. -/
def signs : List String :=
  ["<<=", ">>=", "&&", "||", "<<", ">>", "<=", ">=", "==", "!=", "*=", "/=", "%=", "+=", "-=", "&=",
   "^=", "|=", "(", ")", "+", "-", "*", "/", "%", "<", ">", "=", "!", "~", "&", "^", "|", "?", ":"]

def isSpaceChar (c : Char) : Bool := c == ' ' || (0x09 ≤ c.toNat && c.toNat ≤ 0x0d)

def isHexDigit (c : Char) : Bool := (Text.baseDigit? 16 c).isSome

/-- The digits of a number at the head of a text, their base, and the rest. A zero in front says
that the base is eight, and with a letter sixteen. -/
def digits (s : Bytes) : Bytes × Nat × Bytes :=
  match s with
  | '0' :: x :: d :: rest =>
    if (x = 'x' ∨ x = 'X') ∧ isHexDigit d then
      ((d :: rest).takeWhile isHexDigit, 16, (d :: rest).dropWhile isHexDigit)
    else octal
  | '0' :: _ => octal
  | _ => (s.takeWhile Text.isDigit, 10, s.dropWhile Text.isDigit)
where
  octal : Bytes × Nat × Bytes :=
    let isOctal (c : Char) : Bool := (Text.baseDigit? 8 c).isSome
    (s.takeWhile isOctal, 8, s.dropWhile isOctal)

def tokensFrom : Nat → Bytes → Except Fault (List Token)
  | 0, _ => .ok []
  | fuel + 1, s =>
    match s with
    | [] => .ok []
    | c :: rest =>
      if isSpaceChar c then tokensFrom fuel rest
      else if c.isDigit then
        let (ds, base, rest) := digits s
        let n : Nat := (Text.numeral? base ds).getD 0
        (tokensFrom fuel rest).map (.number (min (n : Int) greatest) :: ·)
      else if isNameStart c then
        (tokensFrom fuel (s.dropWhile isNameChar)).map (.name (s.takeWhile isNameChar) :: ·)
      else
        match signs.find? fun sign => s.take sign.length = sign.toList with
        | some sign => (tokensFrom fuel (s.drop sign.length)).map (.sign sign :: ·)
        | none => .ok [.unknown]

/-! ### Expressions -/

def operation? : String → Option Operation
  | "*" => some .times
  | "/" => some .dividedBy
  | "%" => some .modulo
  | "+" => some .plus
  | "-" => some .minus
  | "<<" => some .shiftLeft
  | ">>" => some .shiftRight
  | "<" => some .less
  | "<=" => some .lessEqual
  | ">" => some .greater
  | ">=" => some .greaterEqual
  | "==" => some .equal
  | "!=" => some .unequal
  | "&" => some .bitAnd
  | "^" => some .bitXor
  | "|" => some .bitOr
  | _ => none

/-- The operation of an assignment, if the sign is one. -/
def assignment? : String → Option (Option Operation)
  | "=" => some none
  | "*=" => some (some .times)
  | "/=" => some (some .dividedBy)
  | "%=" => some (some .modulo)
  | "+=" => some (some .plus)
  | "-=" => some (some .minus)
  | "<<=" => some (some .shiftLeft)
  | ">>=" => some (some .shiftRight)
  | "&=" => some (some .bitAnd)
  | "^=" => some (some .bitXor)
  | "|=" => some (some .bitOr)
  | _ => none

/-- An expression and the tokens after it. -/
abbrev Parsed := Except Fault (Expression × List Token)

mutual

def whole (fuel : Nat) (ts : List Token) : Parsed :=
  match fuel, ts with
  | 0, _ => .error (.expected "primary")
  | fuel + 1, .name name :: .sign s :: rest =>
    match assignment? s with
    | some operation => do
      let (value, rest) ← whole fuel rest
      return (.assigned name operation value, rest)
    | none => conditional fuel ts
  | fuel + 1, ts => conditional fuel ts

def conditional (fuel : Nat) (ts : List Token) : Parsed :=
  match fuel with
  | 0 => .error (.expected "primary")
  | fuel + 1 => do
    let (test, ts) ← alternative fuel ts
    match ts with
    | .sign "?" :: rest => do
      let (yes, rest) ← whole fuel rest
      match rest with
      | .sign ":" :: rest => do
        let (no, rest) ← conditional fuel rest
        return (.choice test yes no, rest)
      | _ => throw (.expected "':'")
    | ts => return (test, ts)

def alternative (fuel : Nat) (ts : List Token) : Parsed :=
  match fuel with
  | 0 => .error (.expected "primary")
  | fuel + 1 => do
    let (left, ts) ← conjunction fuel ts
    match ts with
    | .sign "||" :: rest => do
      let (right, rest) ← alternative fuel rest
      return (.either left right, rest)
    | ts => return (left, ts)

def conjunction (fuel : Nat) (ts : List Token) : Parsed :=
  match fuel with
  | 0 => .error (.expected "primary")
  | fuel + 1 => do
    let (left, ts) ← ranked fuel 7 ts
    match ts with
    | .sign "&&" :: rest => do
      let (right, rest) ← conjunction fuel rest
      return (.both left right, rest)
    | ts => return (left, ts)

/-- Operations of at most the rank. -/
def ranked (fuel rank : Nat) (ts : List Token) : Parsed :=
  match fuel with
  | 0 => .error (.expected "primary")
  | fuel + 1 => do
    let (left, ts) ← primary fuel ts
    rankedFrom fuel rank left ts

def rankedFrom (fuel rank : Nat) (left : Expression) (ts : List Token) : Parsed :=
  match fuel, ts with
  | 0, _ => .error (.expected "primary")
  | fuel + 1, .sign s :: rest =>
    match operation? s with
    | none => .ok (left, ts)
    | some operation =>
      if operation.rank > rank then .ok (left, ts)
      else do
        let (right, rest) ← primary fuel rest
        let (right, rest) ←
          if operation.rank = 0 then pure (right, rest)
          else rankedFrom fuel (operation.rank - 1) right rest
        rankedFrom fuel rank (.binary operation left right) rest
  | _ + 1, ts => .ok (left, ts)

def primary (fuel : Nat) (ts : List Token) : Parsed :=
  match fuel, ts with
  | 0, _ => .error (.expected "primary")
  | fuel + 1, .sign "(" :: rest => do
    let (e, rest) ← whole fuel rest
    match rest with
    | .sign ")" :: rest => return (e, rest)
    | _ => throw (.expected "')'")
  | _ + 1, .number n :: rest => .ok (.number n, rest)
  | _ + 1, .name s :: rest => .ok (.named s, rest)
  | fuel + 1, .sign "+" :: rest => primary fuel rest
  | fuel + 1, .sign "-" :: rest => do
    let (e, rest) ← primary fuel rest
    return (.negative e, rest)
  | fuel + 1, .sign "!" :: rest => do
    let (e, rest) ← primary fuel rest
    return (.denied e, rest)
  | fuel + 1, .sign "~" :: rest => do
    let (e, rest) ← primary fuel rest
    return (.complement e, rest)
  | _ + 1, _ => .error (.expected "primary")

end

/-- The expression that a text holds. -/
def read (text : Bytes) : Except Fault Expression := do
  let ts ← tokensFrom (text.length + 1) text
  let (e, rest) ← whole (8 * (ts.length + 2)) ts
  if rest.isEmpty then return e else throw (.expected "EOF")

/-! ### Values -/

/-- The number that is kept of an integer: its lowest 64 bits, with a sign. -/
def wrap (n : Int) : Int := n.bmod (Nat.pow 2 64)

def ofBool (b : Bool) : Int := if b then 1 else 0

/-- An operation on the bits of both numbers. -/
def bitwise (f : UInt64 → UInt64 → UInt64) (a b : Int) : Int :=
  (f (UInt64.ofInt a) (UInt64.ofInt b)).toNat

def shiftWidth (n : Int) : Nat := (n % 64).toNat

def apply (operation : Operation) (a b : Int) : Except Fault Int :=
  match operation with
  | .times => .ok (wrap (a * b))
  | .dividedBy => if b = 0 then .error .divisionByZero else .ok (wrap (a.tdiv b))
  | .modulo => if b = 0 then .error .divisionByZero else .ok (a.tmod b)
  | .plus => .ok (wrap (a + b))
  | .minus => .ok (wrap (a - b))
  | .shiftLeft => .ok (wrap (a * Nat.pow 2 (shiftWidth b)))
  | .shiftRight => .ok (a.fdiv (Nat.pow 2 (shiftWidth b)))
  | .less => .ok (ofBool (a < b))
  | .lessEqual => .ok (ofBool (a ≤ b))
  | .greater => .ok (ofBool (b < a))
  | .greaterEqual => .ok (ofBool (b ≤ a))
  | .equal => .ok (ofBool (a == b))
  | .unequal => .ok (ofBool (a != b))
  | .bitAnd => .ok (wrap (bitwise (· &&& ·) a b))
  | .bitXor => .ok (wrap (bitwise (· ^^^ ·) a b))
  | .bitOr => .ok (wrap (bitwise (· ||| ·) a b))

/-- A number with blanks around it and a sign in front; no text at all is zero. -/
def numeral? (text : Bytes) : Option Int :=
  let s := text.dropWhile isSpaceChar
  let (isNegative, s) :=
    match s with
    | '-' :: s => (true, s)
    | '+' :: s => (false, s)
    | s => (false, s)
  let (ds, base, rest) := digits s
  let n : Nat := (Text.numeral? base ds).getD 0
  let value : Int := if isNegative then -(n : Int) else n
  if rest.all isSpaceChar && !(ds.isEmpty && s.length < (text.dropWhile isSpaceChar).length) &&
      -greatest - 1 ≤ value && value ≤ greatest then some value
  else none

/-- The variables that were assigned, the latest first. -/
abbrev Assigned := List (Bytes × Int)

/-- The value, given the texts of variables. What is not needed is left alone. -/
def evaluate (text? : Bytes → Option Bytes) : Expression → StateT Assigned (Except Fault) Int
  | .number n => pure n
  | .named name => value name
  | .negative e => do return wrap (-(← evaluate text? e))
  | .complement e => do return -(← evaluate text? e) - 1
  | .denied e => do return ofBool ((← evaluate text? e) == 0)
  | .binary operation left right => do
    let a ← evaluate text? left
    let b ← evaluate text? right
    apply operation a b
  | .both left right => do
    if (← evaluate text? left) = 0 then return 0
    else return ofBool ((← evaluate text? right) != 0)
  | .either left right => do
    if (← evaluate text? left) ≠ 0 then return 1
    else return ofBool ((← evaluate text? right) != 0)
  | .choice test yes no => do
    if (← evaluate text? test) ≠ 0 then evaluate text? yes else evaluate text? no
  | .assigned name operation e => do
    let b ← evaluate text? e
    let n ←
      match operation with
      | none => pure b
      | some operation => do
        let a ← value name
        apply operation a b
    modify ((name, n) :: ·)
    return n
where
  value (name : Bytes) : StateT Assigned (Except Fault) Int := do
    match (← get).lookup name with
    | some n => return n
    | none =>
      let text := (text? name).getD []
      match numeral? text with
      | some n => return n
      | none => throw (.noNumber text)

/-- The value of the expression in a text, and what it assigns, in order. -/
def compute (text? : Bytes → Option Bytes) (text : Bytes) :
    Except Fault (Int × List (Bytes × Int)) := do
  let e ← read text
  let (n, assigned) ← (evaluate text? e).run []
  return (n, assigned.reverse)

end Arithmetic
end Launcher.Shell

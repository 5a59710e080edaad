import Launcher.Utility.Numeral
/-!
Arguments written as a format says. The format is used again as long as it takes arguments and some
are left; arguments that are missing count as empty or zero. -/
namespace Launcher.Utility

/-- Whose words are used where something is wrong, and whose escapes. -/
inductive Dialect where
  /-- The commands of the shell itself. -/
  | shell
  /-- The programs of the system. -/
  | system
  deriving DecidableEq, Repr

namespace Format

/-- Something wrong with an argument, or with the format, which ends everything. -/
inductive Problem where
  | notNumeric (argument : Bytes)
  | halfNumeric (argument : Bytes)
  | outOfRange (argument : Bytes)
  | unfinished (directive : Bytes)
  | unknown (directive : Bytes)
  | noFormat
  deriving DecidableEq, Repr

def quoted (s : Bytes) : Bytes := '\x27' :: s ++ ['\x27']

def Problem.text : Problem → Dialect → Bytes
  | .notNumeric a, .shell => a ++ ": expected numeric value".toList
  | .notNumeric a, .system => quoted a ++ ": expected a numeric value".toList
  | .halfNumeric a, .shell => a ++ ": not completely converted".toList
  | .halfNumeric a, .system => quoted a ++ ": value not completely converted".toList
  | .outOfRange a, .shell => a ++ ": Numerical result out of range".toList
  | .outOfRange a, .system => quoted a ++ ": Numerical result out of range".toList
  | .unfinished _, .shell => "missing format character".toList
  | .unfinished d, .system => d ++ ": invalid conversion specification".toList
  | .unknown d, .shell => d ++ ": invalid directive".toList
  | .unknown d, .system => d ++ ": invalid conversion specification".toList
  | .noFormat, .shell => "usage: printf format [arg ...]".toList
  | .noFormat, .system => "missing operand".toList

/-- What has been written, and which arguments are left. -/
structure Progress where
  /-- In reverse. -/
  written : Bytes
  arguments : List Bytes
  /-- In reverse. -/
  problems : List Problem
  /-- Nothing more is written. -/
  isOver : Bool

namespace Progress

def write (p : Progress) (s : Bytes) : Progress := { p with written := s.reverse ++ p.written }

def next (p : Progress) : Bytes × Progress :=
  match p.arguments with
  | [] => ([], p)
  | a :: rest => (a, { p with arguments := rest })

def complain (p : Progress) (e : Problem) : Progress := { p with problems := e :: p.problems }

/-- Takes the next argument as a number. A quote stands for the number of the character after it. -/
def nextNumber (p : Progress) (ofChar : Char → α) (read : Bytes → Numeral α) : α × Progress :=
  let (a, p) := p.next
  match a with
  | '\x22' :: s => (ofChar (s.headD '\x00'), p)
  | '\x27' :: s => (ofChar (s.headD '\x00'), p)
  | a =>
    let n := read a
    let problem :=
      if !n.rest.isEmpty then
        some (if n.rest.length = a.length then Problem.notNumeric a else .halfNumeric a)
      else if n.cut then some (.outOfRange a)
      else none
    (n.value, (problem.map p.complain).getD p)

end Progress

/-! ### Directives -/

structure Directive where
  left : Bool
  zeros : Bool
  /-- What stands in front of numbers that are not negative. -/
  plus : Bool
  space : Bool
  /-- Another form, with a sign of the base or a point. -/
  changed : Bool
  width : Nat
  precision : Option Nat
  deriving DecidableEq, Repr

namespace Directive

def fill (d : Directive) (s : Bytes) : Nat := d.width - s.length

/-- A text in its field. -/
def pad (d : Directive) (s : Bytes) : Bytes :=
  let blanks := List.replicate (d.fill s) ' '
  if d.left then s ++ blanks else blanks ++ s

/-- A number in its field, where zeros come after the sign. -/
def padNumber (d : Directive) (zeros : Bool) (sign digits : Bytes) : Bytes :=
  if zeros && !d.left then sign ++ List.replicate (d.fill (sign ++ digits)) '0' ++ digits
  else d.pad (sign ++ digits)

def sign (d : Directive) (negative : Bool) : Bytes :=
  if negative then ['-'] else if d.plus then ['+'] else if d.space then [' '] else []

/-- The digits of a whole number; a precision gives the least count of them. -/
def digits (d : Directive) (base n : Nat) : Bytes :=
  if n = 0 ∧ d.precision = some 0 then [] else atLeast (d.precision.getD 1) (Nat.toDigits base n)

def integer (d : Directive) (n : Int) : Bytes :=
  d.padNumber (d.zeros && d.precision.isNone) (d.sign (n < 0)) (d.digits 10 n.natAbs)

def natural (d : Directive) (base : Nat) (mark : Bytes) (n : Nat) : Bytes :=
  let digits := d.digits base n
  let digits := if d.changed && base == 8 && digits.head? != some '0' then '0' :: digits else digits
  let mark := if d.changed && n != 0 && base == 16 then mark else []
  d.padNumber (d.zeros && d.precision.isNone) mark digits

def real (d : Directive) (style : RealStyle) : Number.Binary64 → Bytes
  | .nan => d.padNumber false (d.sign false) ['n', 'a', 'n']
  | .infinite negative => d.padNumber false (d.sign negative) ['i', 'n', 'f']
  | .finite negative m q =>
    let (num, den) := (m * Nat.pow 2 q.toNat, Nat.pow 2 (-q).toNat)
    d.padNumber d.zeros (d.sign negative) (realText style num den (d.precision.getD 6) d.changed)

end Directive

def takeDigits (s : Bytes) : Nat × Bytes := Escape.number 10 s.length 0 s

/-- A width or a precision, which may be taken from the arguments. -/
def takeCount (p : Progress) : Bytes → Int × Bytes × Progress
  | '*' :: s =>
    let (n, p) := p.nextNumber (fun c => (c.toNat : Int)) (Numeral.signed true)
    (n, s, p)
  | s =>
    let (n, s) := takeDigits s
    (n, s, p)

/-- Reads a directive up to its last character. -/
def readDirective (p : Progress) (s : Bytes) : Directive × Bytes × Progress :=
  let flags := s.takeWhile ['#', '-', '+', ' ', '0'].contains
  let (width, s, p) := takeCount p (s.drop flags.length)
  let (precision, s, p) :=
    match s with
    | '.' :: s =>
      let (n, s, p) := takeCount p s
      (if n < 0 then none else some n.toNat, s, p)
    | s => (none, s, p)
  let d : Directive :=
    { left := flags.contains '-' || width < 0, zeros := flags.contains '0'
      plus := flags.contains '+', space := flags.contains ' ', changed := flags.contains '#'
      width := width.natAbs, precision }
  (d, s, p)

def upper (s : Bytes) : Bytes := s.map Char.toUpper

/-- Writes the next argument as the directive says, or nothing if there is no such kind. -/
def convert? (dialect : Dialect) (d : Directive) (kind : Char) (p : Progress) : Option Progress :=
  let withReal (style : RealStyle) (change : Bytes → Bytes) : Progress :=
    let (x, p) := p.nextNumber (fun c => Number.Binary64.ofNat c.toNat) Numeral.real
    p.write (change (d.real style x))
  let withNatural (base : Nat) (mark : Bytes) (change : Bytes → Bytes) : Progress :=
    let (n, p) := p.nextNumber (fun c => (c.toNat : Int)) Numeral.unsigned
    p.write (change (d.natural base mark n.toNat))
  let text (s : Bytes) : Bytes := d.pad (s.take (d.precision.getD s.length))
  match kind with
  | 's' =>
    let (a, p) := p.next
    some (p.write (text a))
  | 'b' =>
    let (a, p) := p.next
    let (s, stops) := Escape.replaced ⟨dialect == .system, true, true⟩ a
    some { p.write (text s) with isOver := stops }
  | 'c' =>
    let (a, p) := p.next
    some (p.write (d.pad [a.headD '\x00']))
  | 'd' | 'i' =>
    let (n, p) := p.nextNumber (fun c => (c.toNat : Int)) (Numeral.signed true)
    some (p.write (d.integer n))
  | 'u' => some (withNatural 10 [] id)
  | 'o' => some (withNatural 8 [] id)
  | 'x' => some (withNatural 16 ['0', 'x'] id)
  | 'X' => some (withNatural 16 ['0', 'x'] upper)
  | 'f' => some (withReal .fixed id)
  | 'F' => some (withReal .fixed upper)
  | 'e' => some (withReal .scientific id)
  | 'E' => some (withReal .scientific upper)
  | 'g' => some (withReal .general id)
  | 'G' => some (withReal .general upper)
  | _ => none

/-- Goes through the format once; a problem with the format ends everything. -/
def once (dialect : Dialect) : Nat → Bytes → Progress → Except (Problem × Progress) Progress
  | 0, _, p => .ok p
  | _ + 1, [], p => .ok p
  | fuel + 1, c :: s, p =>
    if p.isOver then .ok p
    else if c = '\\' then
      match Escape.read ⟨dialect == .system, dialect == .system, false⟩ s with
      | .byte e rest => once dialect fuel rest (p.write [e])
      | .stop => .ok { p with isOver := true }
      | .plain => once dialect fuel s (p.write [c])
    else if c ≠ '%' then once dialect fuel s (p.write [c])
    else if s.head? = some '%' then once dialect fuel (s.drop 1) (p.write ['%'])
    else
      let (d, rest, p) := readDirective p s
      let read := c :: s.take (s.length - rest.length + 1)
      match rest with
      | [] => .error (.unfinished read, p)
      | kind :: rest =>
        match convert? dialect d kind p with
        | some p => once dialect fuel rest p
        | none => .error (.unknown read, p)

/-- Goes through the format again while it takes arguments and some are left. -/
def again (dialect : Dialect) (format : Bytes) :
    Nat → Progress → Except (Problem × Progress) Progress
  | 0, p => .ok p
  | fuel + 1, p =>
    match once dialect (format.length + 1) format p with
    | .error e => .error e
    | .ok after =>
      if after.isOver ∨ after.arguments.isEmpty ∨ after.arguments.length = p.arguments.length then
        .ok after
      else again dialect format fuel after

/-- What is written, what is said about arguments, and what ended it early. -/
structure Result where
  text : Bytes
  warnings : List Problem
  failure : Option Problem

def run (dialect : Dialect) : List Bytes → Result
  | [] => ⟨[], [], some .noFormat⟩
  | format :: arguments =>
    match again dialect format (arguments.length + 1) ⟨[], arguments, [], false⟩ with
    | .ok p => ⟨p.written.reverse, p.problems.reverse, none⟩
    | .error (e, p) => ⟨p.written.reverse, p.problems.reverse, some e⟩

end Format
end Launcher.Utility

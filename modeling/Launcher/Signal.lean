import Launcher.Number.Integer
import Launcher.Text.Blank
/-!
The 31 signals that a process can be sent, their numbers and names, and the texts that denote
them. -/
namespace Launcher

inductive Signal where
  | hup | int | quit | ill | trap | abrt | bus | fpe | kill | usr1 | segv | usr2 | pipe | alrm
  | term | stkflt | chld | cont | stop | tstp | ttin | ttou | urg | xcpu | xfsz | vtalrm | prof
  | winch | io | pwr | sys
  deriving DecidableEq, Repr, Inhabited

namespace Signal

/-- By number, from 1. -/
def all : List Signal :=
  [.hup, .int, .quit, .ill, .trap, .abrt, .bus, .fpe, .kill, .usr1, .segv, .usr2, .pipe, .alrm,
   .term, .stkflt, .chld, .cont, .stop, .tstp, .ttin, .ttou, .urg, .xcpu, .xfsz, .vtalrm, .prof,
   .winch, .io, .pwr, .sys]

def number : Signal → Nat
  | .hup => 1 | .int => 2 | .quit => 3 | .ill => 4 | .trap => 5 | .abrt => 6 | .bus => 7
  | .fpe => 8 | .kill => 9 | .usr1 => 10 | .segv => 11 | .usr2 => 12 | .pipe => 13 | .alrm => 14
  | .term => 15 | .stkflt => 16 | .chld => 17 | .cont => 18 | .stop => 19 | .tstp => 20
  | .ttin => 21 | .ttou => 22 | .urg => 23 | .xcpu => 24 | .xfsz => 25 | .vtalrm => 26
  | .prof => 27 | .winch => 28 | .io => 29 | .pwr => 30 | .sys => 31

/-- The name without its first three letters, which all names share. -/
def stem : Signal → String
  | .hup => "HUP" | .int => "INT" | .quit => "QUIT" | .ill => "ILL" | .trap => "TRAP"
  | .abrt => "ABRT" | .bus => "BUS" | .fpe => "FPE" | .kill => "KILL" | .usr1 => "USR1"
  | .segv => "SEGV" | .usr2 => "USR2" | .pipe => "PIPE" | .alrm => "ALRM" | .term => "TERM"
  | .stkflt => "STKFLT" | .chld => "CHLD" | .cont => "CONT" | .stop => "STOP" | .tstp => "TSTP"
  | .ttin => "TTIN" | .ttou => "TTOU" | .urg => "URG" | .xcpu => "XCPU" | .xfsz => "XFSZ"
  | .vtalrm => "VTALRM" | .prof => "PROF" | .winch => "WINCH" | .io => "IO" | .pwr => "PWR"
  | .sys => "SYS"

def nameChars (s : Signal) : List Char := 'S' :: 'I' :: 'G' :: s.stem.toList

def name (s : Signal) : String := String.ofList s.nameChars

def ofNumber? (n : Int) : Option Signal := all.find? fun s => (s.number : Int) == n

def ofName? (name : List Char) : Option Signal := all.find? fun s => s.nameChars == name

/-- Why a text denotes no signal. -/
inductive ReadError where
  | noSuchNumber (n : Int)
  | unknownName (raw : String)
  deriving DecidableEq, Repr

def ReadError.message : ReadError → String
  | .noSuchNumber n => s!"{n}: EINVAL: Invalid argument"
  | .unknownName raw => s!"unknown signal '{raw}'"

/-- A name with the common first letters, which are added when they are missing. -/
def withCommonLetters (name : List Char) : List Char :=
  match name with
  | 'S' :: 'I' :: 'G' :: _ => name
  | _ => 'S' :: 'I' :: 'G' :: name

/-- A text that is a 32-bit numeral is a number and nothing else; any other is a name in any
letter case, with or without its first three letters. Outer white space does not count. -/
def parse (raw : String) : Except ReadError Signal :=
  let text := Text.trimChars raw.toList
  match Number.integer? 32 text with
  | some n =>
    match ofNumber? n with
    | some s => .ok s
    | none => .error (.noSuchNumber n)
  | none =>
    match ofName? (withCommonLetters (Text.upperChars text)) with
    | some s => .ok s
    | none => .error (.unknownName raw)

end Signal
end Launcher

import Launcher.Shell.Running
import Launcher.Utility.Numeral
/-!
What the commands of the shell itself have in common: their flags, their numbers, and how they show
texts that a script could read again. -/
namespace Launcher.Shell

/-- A command of the shell takes arguments and comes to a status. -/
abbrev Builtin := List Bytes → Act Nat

namespace Builtin

/-- A whole number that is not negative and fits 31 bits, with blanks around it. -/
def natural? (s : Bytes) : Option Nat :=
  let n := Utility.Numeral.signed false s
  if n.cut ∨ n.rest.length = s.length ∨ !(Utility.Numeral.dropSpaces n.rest).isEmpty then none
  else if n.value < 0 ∨ n.value ≥ Nat.pow 2 31 then none
  else some n.value.toNat

def notANumber (s : Bytes) : Act α := Act.fail ("Illegal number: ".toList ++ s)

def number (s : Bytes) : Act Nat :=
  match natural? s with
  | some n => pure n
  | none => notANumber s

/-- A flag and the text that belongs to it, if it takes one. -/
abbrev Flag := Char × Bytes

/-- Whether a flag is known, and whether it takes a text; a colon behind it says so. -/
def takesText? (known : List Char) (c : Char) : Option Bool :=
  match known.dropWhile (· != c) with
  | [] => none
  | _ :: rest => some (rest.head? == some ':')

/-- Reads the letters of one argument. What comes after a flag that takes a text belongs to it. -/
def readLetters (known : List Char) (letters : Bytes) (rest : List Bytes) :
    Act (List Flag × List Bytes) :=
  match letters with
  | [] => pure ([], rest)
  | c :: more =>
    match takesText? known c, more, rest with
    | none, _, _ => Act.fail ("Illegal option -".toList ++ [c])
    | some false, _, _ => do
      let (flags, rest) ← readLetters known more rest
      return ((c, []) :: flags, rest)
    | some true, [], [] => Act.fail ("No arg for -".toList ++ c :: " option".toList)
    | some true, [], text :: rest => pure ([(c, text)], rest)
    | some true, text, rest => pure ([(c, text)], rest)

/-- Reads flags up to two dashes or the first argument that is none; each step takes an argument. -/
def readFlags (known : List Char) : Nat → List Bytes → Act (List Flag × List Bytes)
  | 0, words => pure ([], words)
  | _ + 1, ['-', '-'] :: rest => pure ([], rest)
  | fuel + 1, ('-' :: c :: letters) :: rest => do
    let (first, rest) ← readLetters known (c :: letters) rest
    let (more, rest) ← readFlags known fuel rest
    return (first ++ more, rest)
  | _ + 1, words => pure ([], words)

def flags (known : String) (words : List Bytes) : Act (List Flag × List Bytes) :=
  readFlags known.toList (words.length + 1) words

def has (flags : List Flag) (c : Char) : Bool := flags.any fun f => f.1 == c

/-- A text between single quotes; single quotes in it are between double ones. -/
def quoteFrom : Nat → Bytes → Bytes
  | 0, _ => []
  | fuel + 1, s =>
    let plain := s.takeWhile (· != '\x27')
    let rest := s.drop plain.length
    let quotes := rest.takeWhile (· == '\x27')
    let rest := rest.drop quotes.length
    let first := '\x27' :: plain ++ ['\x27']
    if quotes.isEmpty then first
    else
      first ++ '\x22' :: quotes ++ ['\x22'] ++ if rest.isEmpty then [] else quoteFrom fuel rest

def quote (s : Bytes) : Bytes := quoteFrom (s.length + 1) s

/-- Bindings of a kind, each on a line after the word, in the order of their names. -/
def listing (word : Bytes) (shown : Binding → Bool) (s : Scope) : Bytes :=
  let lead := if word.isEmpty then [] else word ++ [' ']
  let entries := (s.bindings.filter fun e => shown e.2).mergeSort fun a b => Bytes.inOrder a.1 b.1
  entries.flatMap fun (name, b) =>
    lead ++ name ++ ((b.value.map fun value => '=' :: quote value).getD []) ++ ['\n']

end Builtin
end Launcher.Shell

import Launcher.Machine.Activity
import Launcher.Utility.Format
/-!
Small programs that a system brings with it: how they are started, and what they have in common. -/
namespace Launcher.Utility

open Machine (Activity Doing)

/-- What a program is started with. -/
structure Invocation where
  /-- What the program is called, and calls itself. -/
  name : Bytes
  arguments : List Bytes
  environment : List (Bytes × Bytes)

/-- A program comes to a status. -/
abbrev Program := Invocation → Doing Nat

namespace Invocation

def complain (i : Invocation) (text : Bytes) : Doing Unit :=
  Doing.write 2 (i.name ++ ':' :: ' ' :: text ++ ['\n'])

/-- Complains about a file. -/
def complainOf (i : Invocation) (path : Bytes) (e : Errno) : Doing Unit :=
  i.complain (path ++ ':' :: ' ' :: e.description.toList)

/-- Complains about the arguments, and says where help is. -/
def misuse (i : Invocation) (text : String) : Doing Nat := do
  i.complain (text.toList ++ "\nTry '".toList ++ i.name ++ " --help' for more information.".toList)
  return 1

end Invocation

/-- Writes a text; the status tells whether that went well. -/
def print (i : Invocation) (bytes : Bytes) : Doing Nat := do
  if bytes.isEmpty then return 0
  else
    match ← Doing.ask (.write 1 bytes) with
    | none => return 0
    | some e =>
      i.complain ("write error: ".toList ++ e.description.toList)
      return 1

/-- Letters after a dash, and the arguments after them. Two dashes end the letters. -/
def splitFlags : List Bytes → Bytes × List Bytes
  | ['-', '-'] :: rest => ([], rest)
  | ('-' :: c :: letters) :: rest =>
    let (more, words) := splitFlags rest
    (c :: letters ++ more, words)
  | words => ([], words)

/-- Letters of options, each with the text that belongs to it. -/
abbrev Options := List (Char × Bytes)

def Options.has (options : Options) (letter : Char) : Bool := options.any fun o => o.1 == letter

/-- Which letters are known, and which of them take a text: what stands behind them, or the next
word. -/
structure OptionStyle where
  plain : Bytes
  valued : Bytes

namespace OptionStyle

/-- Reads the letters of one word. -/
def readLetters (style : OptionStyle) (rest : List Bytes) :
    Bytes → Except String (Options × List Bytes)
  | [] => .ok ([], rest)
  | c :: letters =>
    if style.valued.contains c then
      match letters, rest with
      | [], [] => .error ("option requires an argument -- '" ++ c.toString ++ "'")
      | [], text :: rest => .ok ([(c, text)], rest)
      | text, rest => .ok ([(c, text)], rest)
    else if style.plain.contains c then do
      let (more, rest) ← readLetters style rest letters
      return ((c, []) :: more, rest)
    else .error ("invalid option -- '" ++ c.toString ++ "'")

/-- Reads options wherever they stand, and gives the other words; each step takes a word. -/
def read (style : OptionStyle) : Nat → List Bytes → Except String (Options × List Bytes)
  | 0, words => .ok ([], words)
  | _ + 1, [] => .ok ([], [])
  | _ + 1, ['-', '-'] :: rest => .ok ([], rest)
  | _ + 1, ('-' :: '-' :: name) :: _ =>
    .error ("unrecognized option '--" ++ Bytes.toText name ++ "'")
  | fuel + 1, ('-' :: c :: letters) :: rest => do
    let (first, rest) ← style.readLetters rest (c :: letters)
    let (more, words) ← read style fuel rest
    return (first ++ more, words)
  | fuel + 1, word :: rest => do
    let (options, words) ← read style fuel rest
    return (options, word :: words)

end OptionStyle

/-- Goes on with the options and the other words, or complains and gives the status. -/
def withOptions (i : Invocation) (style : OptionStyle) (trouble : Nat)
    (body : Options → List Bytes → Doing Nat) : Doing Nat := do
  match style.read (i.arguments.length + 1) i.arguments with
  | .ok (options, words) => body options words
  | .error problem =>
    let _ ← i.misuse problem
    return trouble

def natural? (s : Bytes) : Option Nat :=
  if !s.isEmpty && s.all Char.isDigit then some (Escape.number 10 s.length 0 s).1 else none

/-- Opens the file at a path where the body reads from it; a dash stands for what is there
already. -/
def withInput (i : Invocation) (path : Bytes) (body : Nat → Doing Nat) : Doing Nat := do
  if path = ['-'] then body 0
  else
    match ← Doing.ask (.openFile 3 path .reading) with
    | some e =>
      i.complainOf path e
      return 1
    | none =>
      let status ← body 3
      Doing.ask (.close 3)
      return status

/-- Does the same for each argument; the status is that of the worst one. -/
def forEach (body : Bytes → Doing Nat) : List Bytes → Doing Nat
  | [] => pure 0
  | a :: rest => do
    let first ← body a
    let others ← forEach body rest
    return max first others

/-- The text of a file; a dash stands for what is there to read already. -/
def readFile (path : Bytes) : Doing (Except Errno Bytes) := do
  let opened ← if path = ['-'] then pure none else Doing.ask (.openFile 3 path .reading)
  match opened with
  | some e => return .error e
  | none => Doing.readAll (if path = ['-'] then 0 else 3) Doing.patience []

def readQuietly (path : Bytes) : Doing (Option Bytes) := do return (← readFile path).toOption

/-- The text of a file. If there is none, the complaint is about what the file is called. -/
def readAs (i : Invocation) (called path : Bytes) : Doing (Option Bytes) := do
  match ← readFile path with
  | .ok text => return some text
  | .error e =>
    i.complainOf called e
    return none

/-- Lines, each with its end; the last one may have none. -/
def linesOf : Bytes → List Bytes
  | [] => []
  | c :: s =>
    if c = '\n' then ['\n'] :: linesOf s
    else
      match linesOf s with
      | [] => [[c]]
      | l :: ls => (c :: l) :: ls

end Launcher.Utility

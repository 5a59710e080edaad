import Launcher.Utility.Texts
/-!
Programs that pass on the beginning or the end of a text. -/
namespace Launcher.Utility

open Machine (Doing)

/-- The part of each text that is asked for. -/
structure Extent where
  /-- Bytes are counted, not lines. -/
  bytes : Bool
  /-- What stands before the count. -/
  sign : Option Char
  count : Nat
  /-- Whether each text has its name above it; if nothing says so, it has if there are several. -/
  titled : Option Bool

namespace Extent

inductive Problem where
  | unknown (name : Bytes)
  | noCount (letter : Char)
  | badCount (bytes : Bool) (text : Bytes)

def unit (bytes : Bool) : String := if bytes then "bytes" else "lines"

/-- Reads a count, with a sign before it if there is one. -/
def withCount (e : Extent) (bytes : Bool) (text : Bytes) : Except Problem Extent :=
  let sign := text.head?.filter ['+', '-'].contains
  match natural? (text.drop sign.toList.length) with
  | some count => .ok { e with bytes, sign, count }
  | none => .error (.badCount bytes text)

/-- Reads options, wherever they stand, and gives the other words. -/
def read (e : Extent) : List Bytes → Except Problem (Extent × List Bytes)
  | [] => .ok (e, [])
  | ['-', '-'] :: rest => .ok (e, rest)
  | ['-', 'q'] :: rest => read { e with titled := some false } rest
  | ['-', 'v'] :: rest => read { e with titled := some true } rest
  | ['-', 'n'] :: count :: rest => do read (← e.withCount false count) rest
  | ['-', 'c'] :: count :: rest => do read (← e.withCount true count) rest
  | ['-', letter] :: rest => do
    if letter = 'n' ∨ letter = 'c' then .error (.noCount letter)
    else read (← e.withCount false [letter]) rest
  | ('-' :: 'n' :: count) :: rest => do read (← e.withCount false count) rest
  | ('-' :: 'c' :: count) :: rest => do read (← e.withCount true count) rest
  | ('-' :: '-' :: name) :: _ => .error (.unknown name)
  | ('-' :: c :: count) :: rest => do read (← e.withCount false (c :: count)) rest
  | word :: rest => do
    let (e, words) ← read e rest
    return (e, word :: words)

/-- The parts of a text that are counted. -/
def parts (e : Extent) (text : Bytes) : List Bytes :=
  if e.bytes then text.map ([·]) else linesOf text

end Extent

/-- What a text is called where it is shown. -/
def titleOf (path : Bytes) : Bytes := if path = ['-'] then "standard input".toList else path

def complainOfReading (i : Invocation) (path : Bytes) (e : Errno) : Doing Unit :=
  let action :=
    if e = .isADirectory ∨ path = ['-'] then "error reading ".toList ++ Format.quoted (titleOf path)
    else "cannot open ".toList ++ Format.quoted path ++ " for reading".toList
  i.complainOf action e

/-- Passes on so many lines. -/
def copyLines (i : Invocation) (path : Bytes) (stream : Nat) : Nat → Nat → Doing Nat
  | 0, _ => pure 0
  | _, 0 => pure 0
  | fuel + 1, count + 1 => do
    match ← Doing.ask (.read stream .line) with
    | .error e =>
      complainOfReading i path e
      return 1
    | .ok [] => return 0
    | .ok bytes =>
      match ← print i bytes with
      | 0 =>
        copyLines i path stream fuel (if bytes.getLast? = some '\n' then count else count + 1)
      | status => return status

/-- Reads everything and passes on what the function leaves of it. -/
def copyPart (i : Invocation) (path : Bytes) (stream : Nat) (part : Bytes → Bytes) : Doing Nat := do
  match ← Doing.readAll stream Doing.patience [] with
  | .error e =>
    complainOfReading i path e
    return 1
  | .ok text => print i (part text)

/-- Passes on a part of each text. -/
def excerpt (i : Invocation) (body : Extent → Bytes → Nat → Doing Nat) : Doing Nat := do
  match Extent.read ⟨false, none, 10, none⟩ i.arguments with
  | .error (.unknown name) => i.misuse ("unrecognized option '--" ++ Bytes.toText name ++ "'")
  | .error (.noCount letter) =>
    i.misuse ("option requires an argument -- '" ++ letter.toString ++ "'")
  | .error (.badCount bytes text) =>
    i.complain ("invalid number of ".toList ++ (Extent.unit bytes).toList ++ ": ".toList
      ++ Format.quoted text)
    return 1
  | .ok (e, words) =>
    let paths := if words.isEmpty then [['-']] else words
    go e (e.titled.getD (paths.length > 1)) true paths
where
  go (e : Extent) (titled first : Bool) : List Bytes → Doing Nat
    | [] => pure 0
    | path :: rest => do
      let opened ← if path = ['-'] then pure none else Doing.ask (.openFile 3 path .reading)
      match opened with
      | some problem =>
        complainOfReading i path problem
        return max 1 (← go e titled first rest)
      | none =>
        if titled then
          Doing.write 1 ((if first then [] else ['\n']) ++ "==> ".toList ++ titleOf path
            ++ " <==\n".toList)
        let status ← body e path (if path = ['-'] then 0 else 3)
        if path ≠ ['-'] then Doing.ask (.close 3)
        return max status (← go e titled false rest)

def head : Program := fun i =>
  excerpt i fun e path stream => do
    if e.sign = some '-' then
      copyPart i path stream fun text =>
        let parts := e.parts text
        (parts.take (parts.length - e.count)).flatten
    else if e.bytes then copyPart i path stream (List.take e.count)
    else copyLines i path stream Doing.patience e.count

def tail : Program := fun i =>
  excerpt i fun e path stream =>
    copyPart i path stream fun text =>
      let parts := e.parts text
      (parts.drop (if e.sign = some '+' then e.count - 1 else parts.length - e.count)).flatten

end Launcher.Utility

import Launcher.Text.Alphanumeric
/-!
Words as they are written for a shell. A word is cut into chunks, and each chunk is written bare or
between quotes of one kind. Chunks are as long as possible. -/
namespace Launcher.Shell

inductive Style where
  | bare
  | single
  | double
  deriving DecidableEq, Repr

/-- Characters that mean nothing to a shell. -/
def isBareSafe (c : Char) : Bool :=
  Text.isAsciiAlphanumeric c || ['+', '-', '.', '/', ':', '@', ']', '_'].contains c

/-- Whether a chunk of the style can hold the character. A caret never stands in double quotes or
bare, and in single quotes only where a chunk begins. -/
def Style.holds : Style → Char → Bool
  | .bare, c => isBareSafe c
  | .single, c => !(['\x27', '^', '\\'].contains c)
  | .double, c => !(['\x60', '$', '!', '^'].contains c)

/-- Characters that are special between double quotes. -/
def needsBackslash (c : Char) : Bool := ['$', '\x60', '\x22', '\\'].contains c

def escapeDouble (c : Char) : List Char := if needsBackslash c then ['\\', c] else [c]

structure Chunk where
  style : Style
  text : List Char
  deriving DecidableEq, Repr

def Chunk.chars (k : Chunk) : List Char :=
  match k.style with
  | .bare => k.text
  | .single => '\x27' :: (k.text ++ ['\x27'])
  | .double => '\x22' :: (k.text.flatMap escapeDouble ++ ['\x22'])

/-- The styles that a chunk can have when it begins with the character, the best one first. -/
def openingStyles (c : Char) : List Style :=
  if c = '^' then [.single] else [Style.bare, .single, .double].filter (·.holds c)

/-- Extends the chunk as long as a style is left that holds all of it. -/
def chunksFrom (styles : List Style) (held : List Char) : List Char → List Chunk
  | [] => [⟨styles.headD .single, held⟩]
  | c :: rest =>
    let left := styles.filter (·.holds c)
    if left.isEmpty then ⟨styles.headD .single, held⟩ :: chunksFrom (openingStyles c) [c] rest
    else chunksFrom left (held ++ [c]) rest

def chunks : List Char → List Chunk
  | [] => [⟨.single, []⟩]
  | c :: rest => chunksFrom (openingStyles c) [c] rest

def quoteChars (word : List Char) : List Char := (chunks word).flatMap Chunk.chars

/-- The words in their written forms with a blank between them. -/
def joinChars : List (List Char) → List Char
  | [] => []
  | [w] => quoteChars w
  | w :: ws => quoteChars w ++ ' ' :: joinChars ws

/-- A command as one line for a shell. No written form holds a NUL, so words with one are joined
as they are. -/
def commandLine (binary : String) (arguments : List String) : String :=
  let words := binary :: arguments
  if words.any fun w => w.toList.contains '\x00' then " ".intercalate words
  else String.ofList (joinChars (words.map String.toList))

end Launcher.Shell

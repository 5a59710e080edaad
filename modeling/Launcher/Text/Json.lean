import Launcher.Number.Layout
/-!
JSON values and their two texts, compact and indented. Members keep their order. -/
namespace Launcher

inductive Json where
  | null
  | bool (b : Bool)
  | int (i : Int)
  | real (x : Number.Binary64)
  | str (s : String)
  | arr (items : List Json)
  | obj (members : List (String × Json))
  deriving Inhabited

namespace Json

/-- Numbers are positional from 0.00001 up to `10 ^ 16`; other exponents are signed. -/
def realLayout : Number.Layout :=
  { plainFrom := -5, plainBelow := 16, plusSign := true, tie := .even, nan := "null",
    infinity := "null" }

def realText (x : Number.Binary64) : String :=
  if x.isFinite then realLayout.render x else "null"

/-- Two hexadecimal digits after `\u00`. -/
def controlChars (c : Char) : List Char :=
  let d := Nat.toDigits 16 c.toNat
  '\\' :: 'u' :: (List.replicate (4 - d.length) '0' ++ d)

def escapeChar (c : Char) : List Char :=
  if c = '\x22' then ['\\', '\x22']
  else if c = '\\' then ['\\', '\\']
  else if c = '\x08' then ['\\', 'b']
  else if c = '\x0c' then ['\\', 'f']
  else if c = '\n' then ['\\', 'n']
  else if c = '\r' then ['\\', 'r']
  else if c = '\t' then ['\\', 't']
  else if c.toNat < 0x20 then controlChars c
  else [c]

def quote (s : String) : String :=
  String.ofList ('\x22' :: (s.toList.flatMap escapeChar ++ ['\x22']))

mutual

/-- No blanks anywhere outside strings. -/
def compact : Json → String
  | .null => "null"
  | .bool b => if b then "true" else "false"
  | .int i => toString i
  | .real x => realText x
  | .str s => quote s
  | .arr items => "[" ++ ",".intercalate (compactItems items) ++ "]"
  | .obj members => "\x7b" ++ ",".intercalate (compactMembers members) ++ "\x7d"

def compactItems : List Json → List String
  | [] => []
  | j :: rest => compact j :: compactItems rest

def compactMembers : List (String × Json) → List String
  | [] => []
  | (k, j) :: rest => (quote k ++ ":" ++ compact j) :: compactMembers rest

end

def indentText (depth : Nat) : String := String.ofList (List.replicate (2 * depth) ' ')

/-- A bracketed list, one part a line, or nothing between the brackets. -/
def block (depth : Nat) (opening closing : String) (parts : List String) : String :=
  if parts.isEmpty then opening ++ closing
  else
    opening ++ "\n" ++ ",\n".intercalate (parts.map (indentText (depth + 1) ++ ·)) ++ "\n"
      ++ indentText depth ++ closing

mutual

/-- Two blanks of indentation for each level. -/
def pretty (depth : Nat) : Json → String
  | .null => "null"
  | .bool b => if b then "true" else "false"
  | .int i => toString i
  | .real x => realText x
  | .str s => quote s
  | .arr items => block depth "[" "]" (prettyItems (depth + 1) items)
  | .obj members => block depth "\x7b" "\x7d" (prettyMembers (depth + 1) members)

def prettyItems (depth : Nat) : List Json → List String
  | [] => []
  | j :: rest => pretty depth j :: prettyItems depth rest

def prettyMembers (depth : Nat) : List (String × Json) → List String
  | [] => []
  | (k, j) :: rest => (quote k ++ ": " ++ pretty depth j) :: prettyMembers depth rest

end

/-- An object's members in order of their keys; the members of other values are left alone. -/
def ofKeys : Json → Json
  | .obj members => .obj (members.mergeSort fun a b => decide (a.1 ≤ b.1))
  | j => j

end Json
end Launcher

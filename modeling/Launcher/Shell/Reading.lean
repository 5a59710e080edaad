import Launcher.Shell.Quoting
/-!
How a shell reads the words of a simple command: bare characters, single quotes around literal
text, and double quotes, in which a backslash protects a few characters. Parts that touch make one
word, and blanks separate words. A text that a shell would change before it runs the command has no
reading here. -/
namespace Launcher.Shell

/-- Characters that a shell acts on, or may act on, where nothing protects them. -/
def isActive (c : Char) : Bool :=
  ['|', '&', ';', '<', '>', '(', ')', '$', '\x60', '\\', '\x22', '\x27', '\n', '*', '?', '[', '#',
   '~', '=', '%', '!', '\x7b', '\x7d', '^'].contains c

/-- Characters that a shell acts on also between double quotes. -/
def isActiveInDouble (c : Char) : Bool := ['$', '\x60', '!'].contains c

def isSeparator (c : Char) : Bool := c == ' ' || c == '\t'

/-- Adds a character to the word that is being read. -/
def extendWord (word : Option (List Char)) (c : Char) : Option (List Char) :=
  some (word.getD [] ++ [c])

/-- Reads on inside of quotes of the style, or outside of any. `word` is the part of the word that
has been read. -/
def readFrom (style : Style) (word : Option (List Char)) : List Char → Option (List (List Char))
  | [] =>
    match style with
    | .bare => some word.toList
    | _ => none
  | c :: rest =>
    match style with
    | .bare =>
      if isSeparator c then (readFrom .bare none rest).map (word.toList ++ ·)
      else if c = '\x27' then readFrom .single (some (word.getD [])) rest
      else if c = '\x22' then readFrom .double (some (word.getD [])) rest
      else if isActive c then none
      else readFrom .bare (extendWord word c) rest
    | .single =>
      if c = '\x27' then readFrom .bare word rest else readFrom .single (extendWord word c) rest
    | .double =>
      if c = '\x22' then readFrom .bare word rest
      else if c = '\\' then
        match rest with
        | [] => none
        | d :: rest =>
          if needsBackslash d then readFrom .double (extendWord word d) rest
          else if d = '\n' ∨ d = '!' then none
          else readFrom .double (extendWord (extendWord word c) d) rest
      else if isActiveInDouble c then none
      else readFrom .double (extendWord word c) rest

/-- The words of a command, if a shell takes them as they are written. -/
def readWords (line : List Char) : Option (List (List Char)) := readFrom .bare none line

/-- The words of a command line. -/
def read? (line : String) : Option (List String) :=
  (readWords line.toList).map fun words => words.map String.ofList

end Launcher.Shell

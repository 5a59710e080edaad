/-!
Text with terminal styles. A style is switched on before the text and off after it; without
colours the text stands alone. -/
namespace Launcher.Text

inductive Emphasis where
  | bold
  | dimmed
  | italic
  deriving DecidableEq, Repr

def Emphasis.code : Emphasis → String
  | .bold => "1"
  | .dimmed => "2"
  | .italic => "3"

inductive Colour where
  | red
  | green
  | yellow
  | blue
  | cyan
  deriving DecidableEq, Repr

def Colour.code : Colour → String
  | .red => "31"
  | .green => "32"
  | .yellow => "33"
  | .blue => "34"
  | .cyan => "36"

structure Style where
  emphasis : Option Emphasis
  colour : Option Colour
  deriving DecidableEq, Repr

namespace Style

def ofColour (c : Colour) : Style := ⟨none, some c⟩

def ofEmphasis (e : Emphasis) : Style := ⟨some e, none⟩

def boldIn (c : Colour) : Style := ⟨some .bold, some c⟩

def opening (s : Style) : String :=
  let codes := (s.emphasis.map Emphasis.code).toList ++ (s.colour.map Colour.code).toList
  "\x1b[" ++ ";".intercalate codes ++ "m"

end Style

def reset : String := "\x1b[0m"

/-- The text with blanks after it up to the width. -/
def padTo (width : Nat) (text : String) : String :=
  text ++ String.ofList (List.replicate (width - text.length) ' ')

/-- Whether texts are shown with their styles. -/
structure Palette where
  colours : Bool
  deriving DecidableEq, Repr

namespace Palette

/-- A styled text of at least the width. Where the text itself ends a style, it goes on in its
own. -/
def paintTo (p : Palette) (style : Style) (width : Nat) (text : String) : String :=
  if p.colours then
    style.opening ++ padTo width (text.replace reset (reset ++ style.opening)) ++ reset
  else padTo width text

def paint (p : Palette) (style : Style) (text : String) : String := p.paintTo style 0 text

end Palette
end Launcher.Text

import Launcher.Text.HiddenRanges
import Launcher.Text.Blank
/-!
Texts as they are shown in diagnostics: between double quotes, on one line, with everything that
could not be seen written as an escape. -/
namespace Launcher.Text

def isHidden (c : Char) : Bool :=
  if c.toNat < 0x80 then c.toNat < 0x20 || c.toNat == 0x7f
  else inRanges extenderRanges c.toNat || inRanges unprintableRanges c.toNat

/-- The code point in hexadecimal, without leading zeros. -/
def codePointEscape (c : Char) : List Char :=
  '\\' :: 'u' :: '\x7b' :: (Nat.toDigits 16 c.toNat ++ ['\x7d'])

def quotedChar (c : Char) : List Char :=
  if c = '\x00' then ['\\', '0']
  else if c = '\t' then ['\\', 't']
  else if c = '\r' then ['\\', 'r']
  else if c = '\n' then ['\\', 'n']
  else if c = '\\' ∨ c = '\x22' then ['\\', c]
  else if isHidden c then codePointEscape c
  else [c]

def quoted (s : String) : String :=
  String.ofList ('\x22' :: (s.toList.flatMap quotedChar ++ ['\x22']))

def quotedList (items : List String) : String := "[" ++ ", ".intercalate (items.map quoted) ++ "]"

end Launcher.Text

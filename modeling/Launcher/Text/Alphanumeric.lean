import Launcher.Text.AlphanumericRanges
import Launcher.Text.Blank
/-!
Letters and numerals of every script. -/
namespace Launcher.Text

def isAsciiAlphanumeric (c : Char) : Bool :=
  ('a' ≤ c && c ≤ 'z') || ('A' ≤ c && c ≤ 'Z') || ('0' ≤ c && c ≤ '9')

def isAlphanumeric (c : Char) : Bool :=
  if c.toNat < 0x80 then isAsciiAlphanumeric c else inRanges alphanumericRanges c.toNat

end Launcher.Text

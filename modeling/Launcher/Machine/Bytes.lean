/-!
Texts as a machine holds them: bytes, and the characters that they stand for. -/
namespace Launcher

/-- A text as bytes, each held as the character with its number. -/
abbrev Bytes := List Char

namespace Bytes

def ofOctets (octets : List UInt8) : Bytes := octets.map fun b => Char.ofNat b.toNat

def toOctets (bytes : Bytes) : List UInt8 := bytes.map fun c => c.toNat.toUInt8

/-- The bytes that a text is written with. -/
def ofText (s : String) : Bytes := ofOctets s.toUTF8.toList

/-- Whether the first text comes before the second by the numbers of their bytes. -/
def isBefore : Bytes → Bytes → Bool
  | _, [] => false
  | [], _ :: _ => true
  | a :: s, b :: t => a.toNat < b.toNat || a.toNat == b.toNat && isBefore s t

/-- Whether the texts are in order as they stand. -/
def inOrder (a b : Bytes) : Bool := !isBefore b a

/-- A character of several bytes on its way: its bits so far, how many bytes are still missing, and
between which numbers the next one lies. -/
structure Partial where
  value : Nat
  missing : Nat
  least : Nat
  greatest : Nat

/-- What the first byte of a character says about it. -/
inductive Beginning where
  | whole (c : Char)
  | first (p : Partial)
  | invalid

def beginning (n : Nat) : Beginning :=
  if n < 0x80 then .whole (Char.ofNat n)
  else if n < 0xc2 then .invalid
  else if n < 0xe0 then .first ⟨n - 0xc0, 1, 0x80, 0xbf⟩
  else if n < 0xf0 then
    .first ⟨n - 0xe0, 2, if n = 0xe0 then 0xa0 else 0x80, if n = 0xed then 0x9f else 0xbf⟩
  else if n < 0xf5 then
    .first ⟨n - 0xf0, 3, if n = 0xf0 then 0x90 else 0x80, if n = 0xf4 then 0x8f else 0xbf⟩
  else .invalid

/-- Stands for bytes that are no character. -/
def replacement : Char := '\uFFFD'

/-- Reads characters. Where a character breaks off, one replacement stands for what there was. -/
def decodeFrom : Option Partial → Bytes → List Char
  | none, [] => []
  | some _, [] => [replacement]
  | none, b :: s =>
    match beginning b.toNat with
    | .whole c => c :: decodeFrom none s
    | .first p => decodeFrom (some p) s
    | .invalid => replacement :: decodeFrom none s
  | some p, b :: s =>
    let n := b.toNat
    if p.least ≤ n ∧ n ≤ p.greatest then
      let value := p.value * 64 + n % 64
      if p.missing = 1 then Char.ofNat value :: decodeFrom none s
      else decodeFrom (some ⟨value, p.missing - 1, 0x80, 0xbf⟩) s
    else
      replacement ::
        (match beginning n with
        | .whole c => c :: decodeFrom none s
        | .first p => decodeFrom (some p) s
        | .invalid => replacement :: decodeFrom none s)

/-- The text that the bytes stand for. -/
def toText (bytes : Bytes) : String := String.ofList (decodeFrom none bytes)

end Bytes
end Launcher

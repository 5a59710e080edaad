import Launcher.Text.Case
/-!
Internet addresses of both versions, their texts, and which of them a server can bind to. -/
namespace Launcher

inductive Address where
  | v4 (a b c d : UInt8)
  | v6 (groups : Vector UInt16 8)
  deriving DecidableEq, Repr

namespace Address

def wildcard : Address := .v4 0 0 0 0

/-- Cuts a text at every occurrence of the character. -/
def splitAt (sep : Char) : List Char → List (List Char)
  | [] => [[]]
  | c :: s =>
    if c = sep then [] :: splitAt sep s
    else
      match splitAt sep s with
      | [] => [[c]]
      | w :: ws => (c :: w) :: ws

/-- One part of a dotted address: up to three digits, no leading zero, at most 255. -/
def octet? (s : List Char) : Option UInt8 :=
  if s.length > 3 then none
  else if s.head? = some '0' ∧ s.length > 1 then none
  else ((Text.numeral? 10 s).filter (· < 256)).map Nat.toUInt8

def dotted? (s : List Char) : Option (UInt8 × UInt8 × UInt8 × UInt8) :=
  match splitAt '.' s with
  | [a, b, c, d] => do
    let a ← octet? a
    let b ← octet? b
    let c ← octet? c
    let d ← octet? d
    some (a, b, c, d)
  | _ => none

def pair (high low : UInt8) : UInt16 := high.toUInt16 * 256 + low.toUInt16

def group? (s : List Char) : Option UInt16 :=
  if s.length > 4 then none else (Text.numeral? 16 s).map Nat.toUInt16

/-- Groups between colons; the last of them may be a dotted address, where that is allowed. -/
def groups? (dottedEnd : Bool) : List (List Char) → Option (List UInt16)
  | [] => some []
  | [w] =>
    match group? w with
    | some g => some [g]
    | none =>
      if dottedEnd then (dotted? w).map fun (a, b, c, d) => [pair a b, pair c d] else none
  | w :: ws => (group? w).bind fun g => (groups? dottedEnd ws).map (g :: ·)

/-- What stands before and after the first `::`. -/
def cutDouble : List Char → Option (List Char × List Char)
  | [] => none
  | ':' :: ':' :: s => some ([], s)
  | c :: s => (cutDouble s).map fun (before, after) => (c :: before, after)

def section? (dottedEnd : Bool) (s : List Char) : Option (List UInt16) :=
  if s.isEmpty then some [] else groups? dottedEnd (splitAt ':' s)

/-- Eight groups, or fewer around one `::` that stands for at least one group of zeros. -/
def parseV6? (s : List Char) : Option Address :=
  let all : Option (List UInt16) :=
    match cutDouble s with
    | none => groups? true (splitAt ':' s)
    | some (before, after) => do
      let head ← section? false before
      let tail ← section? true after
      if head.length + tail.length ≤ 7 then
        some (head ++ List.replicate (8 - head.length - tail.length) 0 ++ tail)
      else none
  all.bind fun groups =>
    if h : groups.length = 8 then some (.v6 ⟨groups.toArray, by simpa using h⟩) else none

def parse? (s : String) : Option Address :=
  match dotted? s.toList with
  | some (a, b, c, d) => some (.v4 a b c d)
  | none => parseV6? s.toList

def dottedText (a b c d : UInt8) : String := s!"{a.toNat}.{b.toNat}.{c.toNat}.{d.toNat}"

/-- The length of the run of zero groups at the head. -/
def zeroRun (groups : List UInt16) : Nat := (groups.takeWhile (· == 0)).length

/-- Start and length of the first of the longest runs of zero groups. -/
def longestZeros (groups : List UInt16) : Nat × Nat :=
  (List.range groups.length).foldl
    (fun best i =>
      if (zeroRun (groups.drop i)) > best.2 then (i, zeroRun (groups.drop i)) else best)
    (0, 0)

def hexText (g : UInt16) : String := String.ofList (Nat.toDigits 16 g.toNat)

def joinGroups (groups : List UInt16) : String := ":".intercalate (groups.map hexText)

def v6Text (groups : List UInt16) : String :=
  match groups with
  | [0, 0, 0, 0, 0, 0xffff, high, low] =>
    "::ffff:" ++ dottedText (high / 256).toUInt8 high.toUInt8 (low / 256).toUInt8 low.toUInt8
  | _ =>
    let (start, length) := longestZeros groups
    if length < 2 then joinGroups groups
    else joinGroups (groups.take start) ++ "::" ++ joinGroups (groups.drop (start + length))

/-- The canonical text: lower case, the longest run of at least two zero groups left out, and a
dotted end for addresses of version 4 inside version 6. -/
def render : Address → String
  | .v4 a b c d => dottedText a b c d
  | .v6 groups => v6Text groups.toList

def isLoopback : Address → Bool
  | .v4 a _ _ _ => a == 127
  | .v6 groups => groups.toList == [0, 0, 0, 0, 0, 0, 0, 1]

def isLinkLocal : Address → Bool
  | .v4 a b _ _ => a == 169 && b == 254
  | .v6 groups => (groups.toList.headD 0) &&& 0xffc0 == 0xfe80

/-- Whether a server on the network can usefully bind to the address. -/
def isServerAddress (a : Address) : Bool := !a.isLoopback && !a.isLinkLocal

/-- Keeps the first of equal elements. -/
def distinct (known : List Address) : List Address → List Address
  | [] => known
  | a :: rest => if known.contains a then distinct known rest else distinct (known ++ [a]) rest

/-- What the interfaces of a host offer to a server, each address once and in the order of the
report; an interface may report something that is no internet address. The wildcard ends the list
unless an interface reports it. -/
def serverAddresses (reported : List (Option Address)) : List Address :=
  let found := distinct [] ((reported.filterMap id).filter isServerAddress)
  if found.contains wildcard then found else found ++ [wildcard]

end Address
end Launcher

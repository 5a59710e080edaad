import Launcher.Utility.Numeral
/-!
Regular expressions, in the two ways in which programs write them, and what they match. -/
namespace Launcher.Utility

/-- A set of characters: those in the ranges, or all others. -/
structure CharSet where
  ranges : List (Char × Char)
  excluded : Bool
  deriving DecidableEq, Repr

namespace CharSet

def single (c : Char) : CharSet := ⟨[(c, c)], false⟩

def any : CharSet := ⟨[], true⟩

def covers (k : CharSet) (c : Char) : Bool :=
  (k.ranges.any fun r => decide (r.1 ≤ c) && decide (c ≤ r.2)) != k.excluded

/-- Characters of which words are made. -/
def ofWords : CharSet := ⟨[('a', 'z'), ('A', 'Z'), ('0', '9'), ('_', '_')], false⟩

def ofSpaces : CharSet := ⟨[('\t', '\r'), (' ', ' ')], false⟩

/-- The ranges of a class that is known by its name. -/
def named? : String → Option (List (Char × Char))
  | "alpha" => some [('a', 'z'), ('A', 'Z')]
  | "digit" => some [('0', '9')]
  | "alnum" => some [('0', '9'), ('A', 'Z'), ('a', 'z')]
  | "upper" => some [('A', 'Z')]
  | "lower" => some [('a', 'z')]
  | "space" => some [('\t', '\r'), (' ', ' ')]
  | "blank" => some [('\t', '\t'), (' ', ' ')]
  | "punct" => some [('!', '/'), (':', '@'), ('[', '\x60'), ('\x7b', '~')]
  | "print" => some [(' ', '~')]
  | "graph" => some [('!', '~')]
  | "cntrl" => some [('\x00', '\x1f'), ('\x7f', '\x7f')]
  | "xdigit" => some [('0', '9'), ('A', 'F'), ('a', 'f')]
  | _ => none

end CharSet

inductive Regex where
  | empty
  | one (set : CharSet)
  | atStart
  | atEnd
  /-- Between a character of words and another one. -/
  | atBoundary
  /-- The text that a group has matched. -/
  | back (group : Nat)
  | group (number : Nat) (inside : Regex)
  | sequence (first second : Regex)
  | either (first second : Regex)
  | repeated (inside : Regex) (least : Nat) (most : Option Nat)
  deriving Repr

namespace Regex

/-! ### Matching -/

/-- A place in a text, and what the groups before it have matched. -/
structure Spot where
  before : Option Char
  rest : Bytes
  groups : List (Nat × Bytes)

namespace Spot

def advance (s : Spot) (count : Nat) : Spot :=
  { s with
    before := if count = 0 then s.before else (s.rest.take count).getLast?
    rest := s.rest.drop count }

/-- The text between two places. -/
def upTo (s t : Spot) : Bytes := s.rest.take (s.rest.length - t.rest.length)

end Spot

/-- All places where a match from here may end, the preferred ones first. -/
def ends (folds : Bool) (fuel : Nat) (r : Regex) (s : Spot) : List Spot :=
  match fuel with
  | 0 => []
  | fuel + 1 =>
    let isWord (c : Option Char) : Bool := c.any CharSet.ofWords.covers
    match r with
    | .empty => [s]
    | .one set =>
      match s.rest with
      | [] => []
      | c :: _ =>
        if set.covers c || folds && (set.covers c.toLower || set.covers c.toUpper) then
          [s.advance 1]
        else []
    | .atStart => if s.before.isNone then [s] else []
    | .atEnd => if s.rest.isEmpty then [s] else []
    | .atBoundary => if isWord s.before != isWord s.rest.head? then [s] else []
    | .back number =>
      match s.groups.lookup number with
      | none => []
      | some text => if text.isPrefixOf s.rest then [s.advance text.length] else []
    | .group number inside =>
      (ends folds fuel inside s).map fun t => { t with groups := (number, s.upTo t) :: t.groups }
    | .sequence first second => (ends folds fuel first s).flatMap (ends folds fuel second)
    | .either first second => ends folds fuel first s ++ ends folds fuel second s
    | .repeated inside least most =>
      let longer :=
        if most = some 0 then []
        else
          (ends folds fuel inside s).flatMap fun t =>
            if least = 0 ∧ t.rest.length = s.rest.length then []
            else ends folds fuel (.repeated inside (least - 1) (most.map (· - 1))) t
      longer ++ if least = 0 then [s] else []

/-- Where the longest match from here ends. -/
def longest? (folds : Bool) (r : Regex) (s : Spot) : Option Spot :=
  (ends folds (1000 + 8 * s.rest.length) r s).foldl
    (fun best t =>
      match best with
      | none => some t
      | some b => if t.rest.length < b.rest.length then some t else best) none

/-- A match in a text. -/
structure Match where
  /-- What comes before it. -/
  skipped : Bytes
  text : Bytes
  groups : List (Nat × Bytes)
  after : Spot

/-- The first match from a place on; each step leaves a character behind. -/
def find? (folds : Bool) (r : Regex) (s : Spot) : Bytes → Option Match :=
  go s
where
  go (here : Spot) : Bytes → Option Match
    | [] => (longest? folds r here).map fun t => ⟨s.upTo here, here.upTo t, t.groups, t⟩
    | _ :: rest =>
      match longest? folds r here with
      | some t => some ⟨s.upTo here, here.upTo t, t.groups, t⟩
      | none => go (here.advance 1) rest

def firstMatch? (folds : Bool) (r : Regex) (s : Spot) : Option Match := find? folds r s s.rest

/-- Whether there is a match anywhere in the text. -/
def occursIn (folds : Bool) (r : Regex) (text : Bytes) : Bool :=
  (firstMatch? folds r ⟨none, text, []⟩).isSome

/-! ### Reading -/

/-- A part of a written expression. -/
inductive Sign where
  | one (set : CharSet)
  | opening
  | closing
  | bar
  | times (least : Nat) (most : Option Nat) (text : Bytes)
  | caret
  | dollar
  | boundary
  | back (group : Nat)

/-- The members of a set up to the closing bracket, which may come first. -/
def readMembers : Nat → Bool → Bytes → Option (List (Char × Char) × Bytes)
  | 0, _, _ => none
  | _ + 1, _, [] => none
  | fuel + 1, isFirst, c :: s =>
    let goOn (ranges : List (Char × Char)) (rest : Bytes) : Option (List (Char × Char) × Bytes) :=
      (readMembers fuel false rest).map fun (more, rest) => (ranges ++ more, rest)
    if c = ']' ∧ !isFirst then some ([], s)
    else
      match c, s with
      | '[', ':' :: s =>
        let name := s.takeWhile Char.isLower
        match s.drop name.length, CharSet.named? (String.ofList name) with
        | ':' :: ']' :: rest, some ranges => goOn ranges rest
        | _, _ => none
      | c, '-' :: last :: rest =>
        if last = ']' then goOn [(c, c)] ('-' :: last :: rest) else goOn [(c, last)] rest
      | c, rest => goOn [(c, c)] rest

/-- How often something is repeated, up to the closing brace. -/
def readCounts (extended : Bool) (s : Bytes) : Option (Nat × Option Nat × Bytes) :=
  let number (s : Bytes) : Option Nat × Bytes :=
    let digits := s.takeWhile Char.isDigit
    ((String.ofList digits).toNat?, s.drop digits.length)
  let finish (s : Bytes) : Option Bytes :=
    match extended, s with
    | true, '\x7d' :: s => some s
    | false, '\\' :: '\x7d' :: s => some s
    | _, _ => none
  match number s with
  | (least, ',' :: s) =>
    let (most, s) := number s
    (finish s).map fun rest => (least.getD 0, most, rest)
  | (some count, s) => (finish s).map fun rest => (count, some count, rest)
  | (none, _) => none

/-- Reads what a character stands for, given whether it is written with a backslash. -/
def sign (extended : Bool) (escaped : Bool) (c : Char) (s : Bytes) : Option (Sign × Bytes) :=
  let isSpecial : Bool := extended != escaped
  match c with
  | '(' => some (if isSpecial then .opening else .one (.single c), s)
  | ')' => some (if isSpecial then .closing else .one (.single c), s)
  | '|' => some (if isSpecial then .bar else .one (.single c), s)
  | '+' => some (if isSpecial then .times 1 none ['+'] else .one (.single c), s)
  | '?' => some (if isSpecial then .times 0 (some 1) ['?'] else .one (.single c), s)
  | '\x7b' =>
    if isSpecial then
      (readCounts extended s).map fun (least, most, rest) => (.times least most ['\x7b'], rest)
    else some (.one (.single c), s)
  | _ =>
    if escaped then
      match c with
      | 'w' => some (.one .ofWords, s)
      | 'W' => some (.one { CharSet.ofWords with excluded := true }, s)
      | 's' => some (.one .ofSpaces, s)
      | 'S' => some (.one { CharSet.ofSpaces with excluded := true }, s)
      | 'b' | '<' | '>' => some (.boundary, s)
      | 'n' => some (.one (.single '\n'), s)
      | 't' => some (.one (.single '\t'), s)
      | _ =>
        if c.isDigit && c != '0' then some (.back (c.toNat - '0'.toNat), s)
        else some (.one (.single c), s)
    else
      match c with
      | '.' => some (.one .any, s)
      | '*' => some (.times 0 none ['*'], s)
      | '^' => some (.caret, s)
      | '$' => some (.dollar, s)
      | '[' =>
        let excluded := s.head? == some '^'
        (readMembers (s.length + 1) true (if excluded then s.drop 1 else s)).map
          fun (ranges, rest) => (.one ⟨ranges, excluded⟩, rest)
      | _ => some (.one (.single c), s)

def signs (extended : Bool) : Nat → Bytes → Option (List Sign)
  | 0, _ => none
  | _ + 1, [] => some []
  | fuel + 1, '\\' :: c :: s => do
    let (first, rest) ← sign extended true c s
    return first :: (← signs extended fuel rest)
  | fuel + 1, c :: s => do
    let (first, rest) ← sign extended false c s
    return first :: (← signs extended fuel rest)

/-- Whether nothing of a branch comes any more. -/
def endsBranch : List Sign → Bool
  | [] => true
  | .closing :: _ => true
  | .bar :: _ => true
  | _ => false

/-- What has been read, how many groups there are, and what is left. -/
abbrev Progress := Regex × Nat × List Sign

/-- Puts repetitions around a part. -/
def repeats (part : Regex) : List Sign → Regex × List Sign
  | .times least most _ :: s => repeats (.repeated part least most) s
  | s => (part, s)

mutual

def branches (extended : Bool) (fuel groups : Nat) (s : List Sign) : Option Progress :=
  match fuel with
  | 0 => none
  | fuel + 1 => do
    let (first, groups, s) ← branch extended fuel true .empty groups s
    match s with
    | .bar :: s =>
      let (second, groups, s) ← branches extended fuel groups s
      return (.either first second, groups, s)
    | s => return (first, groups, s)

/-- Reads one part after another, after those that are held. -/
def branch (extended : Bool) (fuel : Nat) (isFirst : Bool) (held : Regex) (groups : Nat)
    (s : List Sign) : Option Progress :=
  match fuel with
  | 0 => none
  | fuel + 1 =>
    let goOn (part : Regex) (groups : Nat) (s : List Sign) : Option Progress :=
      let (part, s) := repeats part s
      branch extended fuel false (.sequence held part) groups s
    match s with
    | [] => some (held, groups, [])
    | .closing :: _ => some (held, groups, s)
    | .bar :: _ => some (held, groups, s)
    | .caret :: s =>
      if extended || isFirst then branch extended fuel true (.sequence held .atStart) groups s
      else goOn (.one (.single '^')) groups s
    | .dollar :: s =>
      if extended || endsBranch s then branch extended fuel false (.sequence held .atEnd) groups s
      else goOn (.one (.single '$')) groups s
    | .boundary :: s => goOn .atBoundary groups s
    | .back number :: s => goOn (.back number) groups s
    | .times _ _ text :: s =>
      goOn (text.foldl (fun r c => .sequence r (.one (.single c))) .empty) groups s
    | .one set :: s => goOn (.one set) groups s
    | .opening :: s => do
      let number := groups + 1
      let (inside, groups, s) ← branches extended fuel number s
      match s with
      | .closing :: s => goOn (.group number inside) groups s
      | _ => none

end

/-- The expression that a text denotes. -/
def ofText? (extended : Bool) (text : Bytes) : Option Regex :=
  match signs extended (text.length + 1) text with
  | none => none
  | some s =>
    match branches extended (2 * s.length + 4) 0 s with
    | some (r, _, []) => some r
    | _ => none

end Regex
end Launcher.Utility

import Launcher.Utility.Basic
import Launcher.Utility.Regex
/-!
Programs that pass on parts of what they read. -/
namespace Launcher.Utility

open Machine (Doing)

/-- Paths to read from; what is there already, if there are none. -/
def inputsOf (paths : List Bytes) : List Bytes := if paths.isEmpty then [['-']] else paths

/-- A line without its end. -/
def bareLine (line : Bytes) : Bytes := if line.getLast? = some '\n' then line.dropLast else line

/-! ### Lines that match -/

namespace Search

/-- The expression for any of several texts. -/
def anyOf (texts : List (Option Regex)) : Option Regex :=
  texts.foldr (fun r held => do return .either (← r) (← held)) (some (.one ⟨[], false⟩))

def literal (text : Bytes) : Regex := text.foldr (fun c r => .sequence (.one (.single c)) r) .empty

/-- The expression that the options and the text ask for. -/
def expression? (options : Options) (text : Bytes) : Option Regex := do
  let texts := (linesOf text).map bareLine
  let texts := if text.isEmpty then [[]] else texts
  let r ← anyOf (texts.map fun t =>
    if options.has 'F' then some (literal t) else Regex.ofText? (options.has 'E') t)
  let r := if options.has 'w' then .sequence .atBoundary (.sequence r .atBoundary) else r
  return if options.has 'x' then .sequence .atStart (.sequence r .atEnd) else r

/-- All texts in a line that match. -/
def matchesIn (folds : Bool) (r : Regex) : Nat → Regex.Spot → List Bytes
  | 0, _ => []
  | fuel + 1, s =>
    match Regex.firstMatch? folds r s with
    | none => []
    | some m =>
      if m.text.isEmpty then
        if m.after.rest.isEmpty then [] else matchesIn folds r fuel (m.after.advance 1)
      else m.text :: matchesIn folds r fuel m.after

/-- What is shown of a file, and whether any line was chosen. -/
def shown (options : Options) (r : Regex) (title : Bytes) (text : Bytes) : Bytes × Bool :=
  let folds := options.has 'i'
  let lines := ((linesOf text).map bareLine).zipIdx 1
  let chosen := lines.filter fun l => Regex.occursIn folds r l.1 != options.has 'v'
  let chosen :=
    match (options.lookup 'm').bind natural? with
    | some limit => chosen.take limit
    | none => chosen
  let lead (number : Nat) : Bytes :=
    (if title.isEmpty then [] else title ++ [':'])
      ++ if options.has 'n' then Nat.toDigits 10 number ++ [':'] else []
  let rows : Bytes :=
    if options.has 'o' then
      chosen.flatMap fun (line, number) =>
        (matchesIn folds r (line.length + 1) ⟨none, line, []⟩).flatMap fun t =>
          lead number ++ t ++ ['\n']
    else chosen.flatMap fun (line, number) => lead number ++ line ++ ['\n']
  let count := (if title.isEmpty then [] else title ++ [':']) ++ Nat.toDigits 10 chosen.length
  (if options.has 'c' then count ++ ['\n'] else rows, !chosen.isEmpty)

end Search

/-- Shows the lines that match. -/
def search (implied : Options) : Program := fun i =>
  withOptions i ⟨"EFGHLchilnoqsvwx".toList, ['e', 'm']⟩ 2 fun given words => do
    let options := implied ++ given
    let texts := (options.filter fun o => o.1 == 'e').map (·.2)
    let (texts, paths) := if texts.isEmpty then (words.take 1, words.drop 1) else (texts, words)
    match texts with
    | [] =>
      Doing.write 2 ("Usage: ".toList ++ i.name ++ " [OPTION]... PATTERNS [FILE]...\nTry '".toList
        ++ i.name ++ " --help' for more information.\n".toList)
      return 2
    | first :: more =>
      match Search.expression? options (more.foldl (fun t s => t ++ '\n' :: s) first) with
      | none =>
        i.complain "Invalid regular expression".toList
        return 2
      | some r => go i options r ((paths.length > 1 || options.has 'H') && !options.has 'h') paths
where
  go (i : Invocation) (options : Options) (r : Regex) (titled : Bool) (paths : List Bytes) :
      Doing Nat := do
    let mut found := false
    let mut failed := false
    for path in inputsOf paths do
      let name := if path = ['-'] then "(standard input)".toList else path
      if found && options.has 'q' then return 0
      let read ← if options.has 's' then readQuietly path else readAs i path path
      match read with
      | none => failed := true
      | some text =>
        let (shown, isChosen) := Search.shown options r (if titled then name else []) text
        found := found || isChosen
        if !options.has 'q' then
          if options.has 'l' || options.has 'L' then
            if isChosen != options.has 'L' then
              let _ ← print i (name ++ ['\n'])
          else
            let _ ← print i shown
    return if failed && !(found && options.has 'q') then 2 else if found then 0 else 1

/-! ### Characters -/

namespace Translation

/-- The characters that a text stands for: with ranges and classes. -/
def expand : Nat → Bytes → Bytes
  | 0, _ => []
  | _ + 1, [] => []
  | fuel + 1, '[' :: ':' :: s =>
    let name := s.takeWhile Char.isLower
    match CharSet.named? (String.ofList name), s.drop name.length with
    | some ranges, ':' :: ']' :: rest => (ranges.flatMap between) ++ expand fuel rest
    | _, _ => '[' :: expand fuel (':' :: s)
  | fuel + 1, c :: s =>
    let (first, rest) := one c s
    match rest with
    | '-' :: d :: rest =>
      let (last, rest) := one d rest
      between (first, last) ++ expand fuel rest
    | rest => first :: expand fuel rest
where
  between (r : Char × Char) : Bytes :=
    (List.range (r.2.toNat + 1 - r.1.toNat)).map fun k => Char.ofNat (r.1.toNat + k)
  one (c : Char) (s : Bytes) : Char × Bytes :=
    if c = '\\' then
      match Escape.read ⟨false, false, false⟩ s, s with
      | .byte e rest, _ => (e, rest)
      | _, d :: rest => (d, rest)
      | _, [] => (c, [])
    else (c, s)

/-- The character that takes the place of another one; the last one serves for all that follow. -/
def replace (source target : Bytes) (c : Char) : Char :=
  if source.contains c then
    (target[source.length - 1 - source.reverse.idxOf c]?).getD (target.getLastD c)
  else c

/-- Leaves one of several equal characters that follow each other. -/
def squeeze (kinds : Char → Bool) : Bytes → Bytes
  | [] => []
  | c :: s => if kinds c && s.head? == some c then squeeze kinds s else c :: squeeze kinds s

end Translation

/-- Changes or leaves out characters. -/
def translate : Program := fun i =>
  withOptions i ⟨"cCdst".toList, []⟩ 1 fun options words => do
    let sets := words.map fun w => Translation.expand (w.length + 1) w
    let excluded := options.has 'c' || options.has 'C'
    let source := sets.headD []
    let target := (sets.drop 1).headD []
    let isIn (c : Char) : Bool := source.contains c != excluded
    let isSingle := options.has 'd' != options.has 's'
    if words.isEmpty then i.misuse "missing operand"
    else if words.length = 1 ∧ !isSingle then
      i.misuse ("missing operand after '" ++ Bytes.toText (words.headD [])
        ++ "'\nTwo strings must be given when translating.")
    else if words.length > 1 ∧ options.has 'd' ∧ !options.has 's' then
      i.misuse ("extra operand '" ++ Bytes.toText (words.getLastD [])
        ++ "'\nOnly one string may be given when deleting without squeezing repeats.")
    else
      let text := ((← Doing.readAll 0 Doing.patience []).toOption).getD []
      let replaced (c : Char) : Char :=
        if excluded then if isIn c then target.getLastD c else c
        else Translation.replace source target c
      let changed :=
        if options.has 'd' then text.filter fun c => !isIn c
        else if words.length = 1 then text
        else text.map replaced
      let squeezed : Char → Bool := if words.length = 1 then isIn else target.contains
      print i (if options.has 's' then Translation.squeeze squeezed changed else changed)

/-! ### Parts of lines -/

namespace Parts

/-- From one position to another, or to the end; positions are counted from one. -/
abbrev Range := Nat × Option Nat

def range? (s : Bytes) : Option Range :=
  let first := s.takeWhile Char.isDigit
  match s.drop first.length with
  | [] => (natural? first).map fun n => (n, some n)
  | ['-'] => (natural? first).map fun n => (n, none)
  | '-' :: last =>
    (natural? last).bind fun n =>
      if first.isEmpty then some (1, some n) else (natural? first).map fun m => (m, some n)
  | _ => none

def splitAt (stop : Char) : Bytes → List Bytes
  | [] => [[]]
  | c :: s =>
    if c = stop then [] :: splitAt stop s
    else
      match splitAt stop s with
      | [] => [[c]]
      | part :: rest => (c :: part) :: rest

def ranges? (s : Bytes) : Option (List Range) := (splitAt ',' s).mapM range?

/-- The members at the positions. -/
def chosen (ranges : List Range) (members : List α) : List α :=
  ((members.zipIdx 1).filter fun m =>
    ranges.any fun r => decide (r.1 ≤ m.2) && r.2.all (m.2 ≤ ·)).map (·.1)

def between (stop : Char) : List Bytes → Bytes
  | [] => []
  | [part] => part
  | part :: rest => part ++ stop :: between stop rest

end Parts

/-- Shows parts of each line. -/
def cut : Program := fun i =>
  withOptions i ⟨['s', 'n'], ['d', 'f', 'c', 'b']⟩ 1 fun options paths => do
    let stop := ((options.lookup 'd').bind List.head?).getD '\t'
    match options.find? fun o => ['f', 'c', 'b'].contains o.1 with
    | none => i.misuse "you must specify a list of bytes, characters, or fields"
    | some (letter, text) =>
      match Parts.ranges? text with
      | none => i.misuse "invalid field range"
      | some ranges =>
        let part (line : Bytes) : Option Bytes :=
          if letter != 'f' then some (Parts.chosen ranges line)
          else if line.contains stop then
            some (Parts.between stop (Parts.chosen ranges (Parts.splitAt stop line)))
          else if options.has 's' then none
          else some line
        forEach
          (fun path => do
            match ← readAs i path path with
            | none => return 1
            | some text =>
              let lines := (linesOf text).map bareLine
              print i ((lines.filterMap part).flatMap (· ++ ['\n']))) (inputsOf paths)

/-- Lines that are equal and follow each other, with their count. -/
def runsOf : List Bytes → List (Bytes × Nat)
  | [] => []
  | line :: rest =>
    match runsOf rest with
    | (next, count) :: more =>
      if next = line then (line, count + 1) :: more else (line, 1) :: (next, count) :: more
    | [] => [(line, 1)]

/-- Shows one of several equal lines. -/
def uniq : Program := fun i => withOptions i ⟨['c', 'd', 'u'], []⟩ 1 fun options paths => do
  match ← readAs i (paths.headD ['-']) (paths.headD ['-']) with
  | none => return 1
  | some text =>
    let runs := (runsOf ((linesOf text).map bareLine)).filter fun r =>
      !(options.has 'd' && r.2 == 1) && !(options.has 'u' && r.2 != 1)
    print i (runs.flatMap fun (line, count) =>
      let digits := Nat.toDigits 10 count
      let lead := List.replicate (7 - digits.length) ' ' ++ digits ++ [' ']
      (if options.has 'c' then lead else []) ++ line ++ ['\n'])

end Launcher.Utility

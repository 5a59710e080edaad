import Launcher.Utility.Filters
/-!
A program that edits lines on their way. What it does to them is written as commands, each for the
lines that an address, or a range from one address to another, says. -/
namespace Launcher.Utility

open Machine (Doing)

namespace Editing

inductive Address where
  | line (number : Nat)
  | last
  | matching (r : Regex) (folds : Bool)

/-- A part of what takes the place of a match; group zero is the whole match. -/
inductive Part where
  | text (bytes : Bytes)
  | group (number : Nat)

inductive Action where
  | substitute (r : Regex) (folds : Bool) (parts : List Part) (first : Nat) (all shows : Bool)
  | replace (source target : Bytes)
  | display
  | delete
  | quit
  | number
  | after (text : Bytes)
  | before (text : Bytes)
  | instead (text : Bytes)

structure Step where
  start : Option Address
  stop : Option Address
  negated : Bool
  action : Action

/-! ### Reading -/

/-- What is wrong with a script, and how much of it was left then. -/
structure Problem where
  left : Nat
  message : String

abbrev Reader := StateT Bytes (Except Problem)

namespace Reader

def fail (message : String) : Reader α := do throw ⟨(← get).length, message⟩

def peek : Reader (Option Char) := do return (← get).head?

def take : Reader (Option Char) := modifyGet fun s => (s.head?, s.drop 1)

def takeWhile (p : Char → Bool) : Reader Bytes :=
  modifyGet fun s => (s.takeWhile p, s.dropWhile p)

def skipBlanks : Reader Unit := do
  let _ ← takeWhile fun c => c == ' ' || c == '\t'

/-- The text up to a character, which ends it. The character itself is in it after a backslash. -/
def upTo (stop : Char) (isRegex : Bool) (message : String) : Nat → Reader Bytes
  | 0 => fail message
  | fuel + 1 => do
    match ← take with
    | none => fail message
    | some '\\' =>
      match ← take with
      | none => fail message
      | some c =>
        let rest ← upTo stop isRegex message fuel
        if c = 'n' ∧ isRegex then return '\n' :: rest
        else if c = stop ∧ !(c = '&' ∧ !isRegex) then return c :: rest
        else return '\\' :: c :: rest
    | some c =>
      if c = stop then return []
      else if c = '\n' ∧ isRegex then fail message
      else return c :: (← upTo stop isRegex message fuel)

def untilStop (stop : Char) (isRegex : Bool) (message : String) : Reader Bytes := do
  upTo stop isRegex message ((← get).length + 1)

def natural : Reader (Option Nat) := do
  return (String.ofList (← takeWhile Char.isDigit)).toNat?

def regex (extended : Bool) (text : Bytes) : Reader Regex := do
  match Regex.ofText? extended text with
  | some r => return r
  | none => fail "Invalid regular expression"

def address (extended : Bool) : Reader (Option Address) := do
  match ← peek with
  | some '$' =>
    let _ ← take
    return some .last
  | some '/' =>
    let _ ← take
    let r ← regex extended (← untilStop '/' true "unterminated address regex")
    let folds := (← peek) == some 'I'
    if folds then let _ ← take
    return some (.matching r folds)
  | _ => return (← natural).map .line

/-- The parts of a replacement. -/
def partsOf : Nat → Bytes → List Part
  | 0, _ => []
  | _ + 1, [] => []
  | fuel + 1, '\\' :: c :: s =>
    if c.isDigit then .group (c.toNat - '0'.toNat) :: partsOf fuel s
    else .text [if c = 'n' then '\n' else if c = 't' then '\t' else c] :: partsOf fuel s
  | fuel + 1, '&' :: s => .group 0 :: partsOf fuel s
  | fuel + 1, c :: s => .text [c] :: partsOf fuel s

/-- The text of a command that puts in a line. -/
def textLine : Reader Bytes := do
  skipBlanks
  if (← peek) = some '\\' then
    let _ ← take
    skipBlanks
    if (← peek) = some '\n' then let _ ← take
  let text ← takeWhile (· != '\n')
  return text ++ ['\n']

def unknownFlag : String := "unknown option to \x60s'"

def action (extended : Bool) : Reader Action := do
  match ← take with
  | some 's' =>
    match ← take with
    | none => fail "unterminated \x60s' command"
    | some stop =>
      let pattern ← untilStop stop true "unterminated \x60s' command"
      let replacement ← untilStop stop false "unterminated \x60s' command"
      let flags ← takeWhile fun c => c.isAlphanum
      if flags.any fun c => !(c.isDigit || ['g', 'p', 'I', 'i'].contains c) then fail unknownFlag
      let first := (String.ofList (flags.filter Char.isDigit)).toNat?
      let folds := flags.contains 'I' || flags.contains 'i'
      return .substitute (← regex extended pattern) folds
        (partsOf (replacement.length + 1) replacement) (first.getD 1)
        (flags.contains 'g') (flags.contains 'p')
  | some 'y' =>
    match ← take with
    | none => fail "unterminated \x60y' command"
    | some stop =>
      let source ← untilStop stop true "unterminated \x60y' command"
      let target ← untilStop stop true "unterminated \x60y' command"
      if source.length = target.length then return .replace source target
      else fail "strings for \x60y' command are different lengths"
  | some 'p' => return .display
  | some 'd' => return .delete
  | some 'q' => return .quit
  | some '=' => return .number
  | some 'a' => return .after (← textLine)
  | some 'i' => return .before (← textLine)
  | some 'c' => return .instead (← textLine)
  | some c => fail ("unknown command: \x60" ++ c.toString ++ "'")
  | none => fail "missing command"

def step (extended : Bool) : Reader Step := do
  let start ← address extended
  skipBlanks
  let stop ← if (← peek) = some ',' then do
      let _ ← take
      skipBlanks
      match ← address extended with
      | some a => pure (some a)
      | none => fail "unexpected \x60,'"
    else pure none
  skipBlanks
  let negated := (← peek) == some '!'
  if negated then let _ ← take
  skipBlanks
  let action ← action extended
  skipBlanks
  match ← peek with
  | none => pure ()
  | some c =>
    if c = ';' ∨ c = '\n' ∨ c = '#' then pure ()
    else
      let _ ← take
      match action with
      | .substitute .. => fail unknownFlag
      | .after _ => pure ()
      | .before _ => pure ()
      | .instead _ => pure ()
      | _ => fail "extra characters after command"
  return ⟨start, stop, negated, action⟩

/-- All commands of a script; each step takes a character of it. -/
def steps (extended : Bool) : Nat → Reader (List Step)
  | 0 => pure []
  | fuel + 1 => do
    let _ ← takeWhile fun c => c == ' ' || c == '\t' || c == ';' || c == '\n'
    match ← peek with
    | none => return []
    | some '#' =>
      let _ ← takeWhile (· != '\n')
      steps extended fuel
    | some _ =>
      let first ← step extended
      return first :: (← steps extended fuel)

end Reader

/-! ### Running -/

/-- Replaces matches from the place on. `count` matches have been seen; after one there is no empty
match at its end. -/
def substituteFrom (r : Regex) (folds : Bool) (parts : List Part) (first : Nat) (all : Bool) :
    Nat → Nat → Bool → Regex.Spot → Bytes × Bool
  | 0, _, _, s => (s.rest, false)
  | fuel + 1, count, isAfterMatch, s =>
    match Regex.firstMatch? folds r s with
    | none => (s.rest, false)
    | some m =>
      let goOn (lead : Bytes) (changed : Bool) (count : Nat) : Bytes × Bool :=
        let kept := if m.text.isEmpty then m.after.rest.take 1 else []
        if m.text.isEmpty && m.after.rest.isEmpty then (lead, changed)
        else
          let next := m.after.advance kept.length
          let (more, later) :=
            substituteFrom r folds parts first all fuel count (!m.text.isEmpty) next
          (lead ++ kept ++ more, changed || later)
      if m.text.isEmpty && m.skipped.isEmpty && isAfterMatch then goOn [] false count
      else if count + 1 < first then goOn (m.skipped ++ m.text) false (count + 1)
      else
        let put := parts.flatMap fun part =>
          match part with
          | .text bytes => bytes
          | .group 0 => m.text
          | .group number => (m.groups.lookup number).getD []
        if all then goOn (m.skipped ++ put) true (count + 1)
        else (m.skipped ++ put ++ m.after.rest, true)

def substitute (r : Regex) (folds : Bool) (parts : List Part) (first : Nat) (all : Bool)
    (text : Bytes) : Bytes × Bool :=
  substituteFrom r folds parts first all (text.length + 2) 0 false ⟨none, text, []⟩

/-- A line on its way through the commands. -/
structure Cycle where
  number : Nat
  isLast : Bool
  text : Bytes
  /-- What is shown before the line, and after it. -/
  shown : Bytes
  later : Bytes
  deleted : Bool
  quits : Bool

def Address.covers (c : Cycle) : Address → Bool
  | .line n => c.number == n
  | .last => c.isLast
  | .matching r folds => Regex.occursIn folds r c.text

/-- Whether a step is for the line, and whether its range goes on after it. -/
def Step.applies (s : Step) (isInside : Bool) (c : Cycle) : Bool × Bool :=
  match s.start, s.stop with
  | none, _ => (true, false)
  | some a, none => (a.covers c, false)
  | some a, some b =>
    if isInside then
      match b with
      | .line n => (decide (c.number ≤ n), decide (c.number < n))
      | b => (true, !b.covers c)
    else if a.covers c then
      match b with
      | .line n => (true, decide (c.number < n))
      | .last => (true, !c.isLast)
      | _ => (true, true)
    else (false, false)

def Action.perform (c : Cycle) : Action → Cycle
  | .substitute r folds parts first all shows =>
    let (text, changed) := Editing.substitute r folds parts first all c.text
    { c with text, shown := if changed && shows then c.shown ++ text ++ ['\n'] else c.shown }
  | .replace source target =>
    { c with text := c.text.map fun x => if source.contains x then
        (target[source.idxOf x]?).getD x else x }
  | .display => { c with shown := c.shown ++ c.text ++ ['\n'] }
  | .delete => { c with deleted := true }
  | .quit => { c with quits := true }
  | .number => { c with shown := c.shown ++ Nat.toDigits 10 c.number ++ ['\n'] }
  | .after text => { c with later := c.later ++ text }
  | .before text => { c with shown := c.shown ++ text }
  | .instead text => { c with shown := c.shown ++ text, deleted := true }

/-- Runs the commands on a line; each has a range that the line may be in. -/
def runSteps (c : Cycle) : List (Step × Bool) → Cycle × List (Step × Bool)
  | [] => (c, [])
  | (s, isInside) :: rest =>
    if c.deleted || c.quits then (c, (s, isInside) :: rest)
    else
      let (applies, goesOn) := s.applies isInside c
      let next := if applies != s.negated then s.action.perform c else c
      let (c, rest) := runSteps next rest
      (c, (s, goesOn) :: rest)

/-- Where lines come from: lines that have been read, and the rest of the paths. -/
structure Input where
  lines : List Bytes
  paths : List Bytes

/-- The next line; each step takes a path, or reads once. -/
def nextLine (i : Invocation) : Nat → Input → Doing (Option Bytes × Input)
  | 0, input => pure (none, input)
  | fuel + 1, input => do
    match input.lines, input.paths with
    | line :: lines, _ => return (some line, { input with lines })
    | [], [] => return (none, input)
    | [], ['-'] :: paths =>
      match ← Doing.ask (.read 0 .line) with
      | .ok [] => nextLine i fuel { input with paths }
      | .ok line => return (some line, input)
      | .error e =>
        i.complainOf ("couldn't read ".toList ++ ['-']) e
        nextLine i fuel { input with paths }
    | [], path :: paths =>
      let text ← readAs i ("can't read ".toList ++ path) path
      nextLine i fuel ⟨linesOf (text.getD []), paths⟩

/-- Runs the commands on one line after the other. -/
def runLines (i : Invocation) (quiet : Bool) : Nat → Nat → Option Bytes → Input →
    List (Step × Bool) → Doing Unit
  | 0, _, _, _, _ => pure ()
  | _ + 1, _, none, _, _ => pure ()
  | fuel + 1, number, some line, input, steps => do
    let (next, input) ← nextLine i (input.paths.length + 2) input
    let (c, steps) := runSteps ⟨number, next.isNone, bareLine line, [], [], false, false⟩ steps
    let finish := if line.getLast? = some '\n' ∨ !c.later.isEmpty then ['\n'] else []
    let own := if quiet || c.deleted then [] else c.text ++ finish
    let _ ← print i (c.shown ++ own ++ c.later)
    if c.quits then pure () else runLines i quiet fuel (number + 1) next input steps

end Editing

/-- Edits lines. -/
def edit : Program := fun i =>
  withOptions i ⟨['n', 'E', 'r', 's', 'u'], ['e']⟩ 1 fun options words => do
    let scripts := (options.filter fun o => o.1 == 'e').map (·.2)
    let (scripts, paths) :=
      if scripts.isEmpty then (words.take 1, words.drop 1) else (scripts, words)
    match scripts with
    | [] =>
      Doing.write 2 ("Usage: ".toList ++ i.name
        ++ " [OPTION]... \x7bscript-only-if-no-other-script\x7d [input-file]...\n\n".toList)
      return 1
    | first :: more =>
      let script := more.foldl (fun t s => t ++ '\n' :: s) first
      let extended := options.has 'E' || options.has 'r'
      match (Editing.Reader.steps extended (script.length + 1)).run script with
      | .error p =>
        i.complain ("-e expression #1, char ".toList ++ Nat.toDigits 10 (script.length - p.left)
          ++ ": ".toList ++ p.message.toList)
        return 1
      | .ok (steps, _) =>
        let (first, input) ← Editing.nextLine i (paths.length + 3) ⟨[], inputsOf paths⟩
        Editing.runLines i (options.has 'n') Doing.patience 1 first input
          (steps.map fun s => (s, false))
        let there ← paths.mapM fun path => Doing.ask (.look path)
        return if there.all Except.isOk || paths.contains ['-'] then 0 else 2

end Launcher.Utility

import Launcher.Duration
import Launcher.Utility.Basic
import Launcher.Utility.Condition
/-!
Programs that write texts, pass them on or wait. -/
namespace Launcher.Utility

open Machine (Doing)

/-- Arguments with blanks between them. -/
def joined : List Bytes → Bytes
  | [] => []
  | [a] => a
  | a :: rest => a ++ ' ' :: joined rest

/-- What the shell's own command for writing arguments writes. -/
def echoText (arguments : List Bytes) : Bytes :=
  let quiet := arguments.head? == some ['-', 'n']
  let (text, stops) :=
    Escape.replaced ⟨false, true, true⟩ (joined (if quiet then arguments.drop 1 else arguments))
  if quiet || stops then text else text ++ ['\n']

def isEchoFlag : Bytes → Bool
  | '-' :: c :: rest => (c :: rest).all ['n', 'e', 'E'].contains
  | _ => false

def echo : Program := fun i => do
  let flags := (i.arguments.takeWhile isEchoFlag).flatten
  let text := joined (i.arguments.dropWhile isEchoFlag)
  let interprets := (flags.filter fun c => c == 'e' || c == 'E').getLast? == some 'e'
  let (text, stops) := if interprets then Escape.replaced ⟨true, true, true⟩ text else (text, false)
  print i (if flags.contains 'n' || stops then text else text ++ ['\n'])

def printf : Program := fun i => do
  let r := Format.run .system i.arguments
  for w in r.warnings do
    i.complain (w.text .system)
  match r.failure with
  | some .noFormat => i.misuse "missing operand"
  | some e =>
    i.complain (e.text .system)
    let _ ← print i r.text
    return 1
  | none =>
    let status ← print i r.text
    return if r.warnings.isEmpty then status else 1

def condition (bracket : Bool) : Program := fun i => do
  let read := if bracket then Condition.bracketed else Condition.value
  let value := read .system i.arguments
  match ← value.run with
  | .ok holds => return if holds then 0 else 1
  | .error e =>
    i.complain (e.text .system)
    return 2

/-! ### Waiting -/

/-- The nanoseconds that a text such as `0.5` or `2m` denotes. -/
def span? (s : Bytes) : Option Nat :=
  let n := Numeral.real s
  let factor : Option Nat :=
    match n.rest with
    | [] => some 1
    | ['s'] => some 1
    | ['m'] => some 60
    | ['h'] => some 3600
    | ['d'] => some 86400
    | _ => none
  if n.rest.length = s.length then none
  else
    match n.value, factor with
    | .infinite false, some _ => some (Nat.pow 10 30)
    | x, some factor => (Duration.ofSeconds x).toOption.map fun d => d.toNanos * factor
    | _, none => none

def sleep : Program := fun i => withOptions i ⟨[], []⟩ 1 fun _ spans => do
  if spans.isEmpty then i.misuse "missing operand"
  else
    match spans.filter fun a => (span? a).isNone with
    | [] =>
      let total := spans.foldl (fun total a => total + (span? a).getD 0) 0
      Doing.ask (.pass total)
      return 0
    | bad => do
      for a in bad.dropLast do
        i.complain ("invalid time interval ".toList ++ Format.quoted a)
      i.misuse ("invalid time interval '" ++ Bytes.toText (bad.getLastD []) ++ "'")

/-! ### Copying -/

/-- Passes on everything that is read. -/
def copyStream (i : Invocation) (path : Bytes) (stream : Nat) : Nat → Doing Nat
  | 0 => pure 0
  | fuel + 1 => do
    match ← Doing.ask (.read stream (.bytes 65536)) with
    | .error e =>
      i.complainOf path e
      return 1
    | .ok [] => return 0
    | .ok bytes =>
      match ← print i bytes with
      | 0 => copyStream i path stream fuel
      | status => return status

def cat : Program := fun i => withOptions i ⟨"AbeEnstTuv".toList, []⟩ 1 fun _ words =>
  forEach (fun path => withInput i path fun stream => copyStream i path stream Doing.patience)
    (if words.isEmpty then [['-']] else words)

/-- The texts between blanks. -/
def blankSeparated (s : Bytes) : List Bytes :=
  (s.foldr
    (fun c held =>
      if Numeral.isSpace c then [] :: held
      else
        match held with
        | [] => [[c]]
        | w :: ws => (c :: w) :: ws) [[]]).filter fun w => !w.isEmpty

/-- How many lines, words and bytes a text has. -/
def countsOf (text : Bytes) : List Nat :=
  [text.countP (· == '\n'), (blankSeparated text).length, text.length]

/-- Which of the counts are asked for. -/
def chosenCounts (options : Options) : List Bool :=
  ['l', 'w', 'c'].map fun letter =>
    options.isEmpty || options.has letter || letter == 'c' && options.has 'm'

/-- The width of the counts, which is known from the sizes of the files before they are read. -/
def countWidth (paths : List Bytes) : Doing Nat := do
  let files ← paths.mapM fun path => Doing.ask (.look path)
  let sizes := files.filterMap fun file =>
    match file with
    | .ok (.regular bytes _) => some bytes.length
    | _ => none
  let digits := (Nat.toDigits 10 (sizes.foldl (· + ·) 0)).length
  match files with
  | [] => return 7
  | .error _ :: _ => return if paths.head? = some ['-'] then 7 else 1
  | _ => return if sizes.length < (files.filter Except.isOk).length then max 7 digits else digits

/-- Counts, each in its width, and the name of what was counted. -/
def countRow (chosen : List Bool) (width : Nat) (counts : List Nat) (title : List Bytes) : Bytes :=
  let shown := ((counts.zip chosen).filter (·.2)).map fun (n, _) =>
    let digits := Nat.toDigits 10 n
    List.replicate (width - digits.length) ' ' ++ digits
  joined (shown ++ title) ++ ['\n']

/-- Shows the counts of each text, and of all of them if there are several. -/
def wc : Program := fun i => withOptions i ⟨"lwcm".toList, []⟩ 1 fun options paths => do
  let chosen := chosenCounts options
  let width ←
    if chosen.countP id = 1 ∧ paths.length ≤ 1 then pure 1 else countWidth paths
  let mut total := [0, 0, 0]
  let mut status := 0
  for path in if paths.isEmpty then [['-']] else paths do
    let text ← readAs i path path
    if text.isNone then status := 1
    let isThere := (← Doing.ask (.look path)).isOk
    if text.isSome || isThere then
      let counts := countsOf (text.getD [])
      total := List.zipWith (· + ·) total counts
      let title := if paths.isEmpty then [] else [path]
      status := max status (← print i (countRow chosen width counts title))
  if paths.length > 1 then
    status := max status (← print i (countRow chosen width total ["total".toList]))
  return status

def sort : Program := fun i => do
  let (flags, paths) := splitFlags i.arguments
  let texts ← (if paths.isEmpty then [['-']] else paths).mapM fun path =>
    readAs i ("cannot read: ".toList ++ path) path
  if !texts.all Option.isSome then return 2
  let lines := (texts.flatMap fun text => linesOf (text.getD [])).map fun l =>
    if l.getLast? = some '\n' then l else l ++ ['\n']
  let key (l : Bytes) : Int := (Numeral.signed false l).value
  let precedes (a b : Bytes) : Bool :=
    if flags.contains 'n' && key a != key b then decide (key a ≤ key b)
    else Bytes.inOrder a b
  let sorted := lines.mergeSort fun a b => if flags.contains 'r' then precedes b a else precedes a b
  print i (if flags.contains 'u' then sorted.eraseDups else sorted).flatten

/-- Writes the same line as long as somebody reads it. -/
def repeatLine (i : Invocation) (line : Bytes) : Nat → Doing Nat
  | 0 => pure 0
  | fuel + 1 => do
    match ← print i line with
    | 0 => repeatLine i line fuel
    | status => return status

def yes : Program := fun i =>
  let line := if i.arguments.isEmpty then ['y'] else joined i.arguments
  repeatLine i (line ++ ['\n']) Doing.patience

/-- Whole numbers from one to another. -/
def seq : Program := fun i => do
  match i.arguments.map natural? with
  | [some last] => print i (numbers 1 1 last)
  | [some first, some last] => print i (numbers first 1 last)
  | [some first, some (step + 1), some last] => print i (numbers first (step + 1) last)
  | [] => i.misuse "missing operand"
  | _ =>
    let first := Bytes.toText (i.arguments.headD [])
    i.misuse ("invalid floating point argument: '" ++ first ++ "'")
where
  numbers (first step last : Nat) : Bytes :=
    (List.range ((last + step - first) / step)).flatMap fun k =>
      (toString (first + k * step)).toList ++ ['\n']

def tee : Program := fun i => do
  let (flags, paths) := splitFlags i.arguments
  let text := (← Doing.readAll 0 Doing.patience []).toOption.getD []
  let status ← print i text
  let others ← forEach
    (fun path => do
      let access := if flags.contains 'a' then .appending else .replacing
      match ← Doing.ask (.openFile 3 path access) with
      | some e =>
        i.complainOf path e
        return 1
      | none =>
        Doing.write 3 text
        return 0) paths
  return max status others

/-- A path without slashes at its end. -/
def trimSlashes (s : Bytes) : Bytes :=
  let short := (s.reverse.dropWhile (· == '/')).reverse
  if short.isEmpty then s.take 1 else short

/-- What comes after the last slash. -/
def lastName (s : Bytes) : Bytes := (s.reverse.takeWhile (· != '/')).reverse

def basename : Program := fun i => do
  match i.arguments with
  | [] => i.misuse "missing operand"
  | path :: rest =>
    let path := trimSlashes path
    let name := if path = ['/'] then path else lastName path
    let suffix := rest.headD []
    let cut := name.take (name.length - suffix.length)
    print i ((if cut ≠ [] ∧ cut ++ suffix = name then cut else name) ++ ['\n'])

def dirname : Program := fun i => do
  match i.arguments with
  | [] => i.misuse "missing operand"
  | paths =>
    print i (paths.flatMap fun path =>
      let path := trimSlashes path
      let before := path.take (path.length - (lastName path).length)
      let shown :=
        if path = ['/'] then path else if before.isEmpty then ['.'] else trimSlashes before
      shown ++ ['\n'])

end Launcher.Utility

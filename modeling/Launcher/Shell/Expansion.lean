import Launcher.Shell.Arithmetic
import Launcher.Shell.Pattern
import Launcher.Shell.Scope
/-!
What words come to: parameters, outputs of scripts and sums are put in, the result is split into
fields, and patterns give way to the names of files. -/
namespace Launcher.Shell

/-- A character of a word after everything is put in, or a sign between characters. -/
inductive Symbol where
  | plain (c : Char)
  /-- Protected by quotes. -/
  | quoted (c : Char)
  /-- Put in without quotes, so that it may separate fields. -/
  | loose (c : Char)
  /-- There are quotes here, so that there is a field even if it is empty. -/
  | mark
  /-- Separates arguments that are quoted together. -/
  | gap
  /-- Separates arguments that are not quoted. -/
  | pause
  deriving DecidableEq, Repr

/-! ### Fields -/

/-- Fields that are complete, in reverse, and the one that may still grow. -/
structure Splitting where
  complete : List Pattern
  /-- In reverse. -/
  current : Pattern
  /-- Something has been added to the current field. -/
  touched : Bool
  /-- A blank ended the last field, and a separator that is not blank may still belong to it. -/
  absorbs : Bool
  /-- The current field counts even if nothing is added. -/
  forced : Bool

namespace Splitting

def empty : Splitting := ⟨[], [], false, false, false⟩

def close (t : Splitting) (absorbs forced : Bool) : Splitting :=
  ⟨t.current.reverse :: t.complete, [], false, absorbs, forced⟩

def add (t : Splitting) (x : PatternChar) : Splitting :=
  { t with current := x :: t.current, touched := true, absorbs := false, forced := false }

/-- A blank that separates fields. -/
def blank (t : Splitting) : Splitting :=
  if t.touched then t.close true false else t

def take (separators : Bytes) (t : Splitting) : Symbol → Splitting
  | .plain c => t.add ⟨c, false⟩
  | .quoted c => t.add ⟨c, true⟩
  | .mark => { t with touched := true, absorbs := false, forced := false }
  | .gap => t.close false true
  | .pause => t.blank
  | .loose c =>
    if !separators.contains c then t.add ⟨c, false⟩
    else if Scope.defaultSeparators.contains c then t.blank
    else if !t.touched && t.absorbs then { t with absorbs := false }
    else t.close false false

def fields (t : Splitting) : List Pattern :=
  (if t.touched || t.forced then t.current.reverse :: t.complete else t.complete).reverse

end Splitting

def splitFields (separators : Bytes) (symbols : List Symbol) : List Pattern :=
  (symbols.foldl (Splitting.take separators) .empty).fields

/-- The symbols as one text. -/
def Symbol.char? : Symbol → Option PatternChar
  | .plain c => some ⟨c, false⟩
  | .loose c => some ⟨c, false⟩
  | .quoted c => some ⟨c, true⟩
  | _ => none

def onePattern (symbols : List Symbol) : Pattern := symbols.filterMap Symbol.char?

def oneText (symbols : List Symbol) : Bytes := (onePattern symbols).toBytes

/-! ### Names of files -/

namespace Glob

def segments : Pattern → List Pattern
  | [] => [[]]
  | x :: p =>
    if x.char = '/' then [] :: segments p
    else
      match segments p with
      | [] => [[x]]
      | q :: qs => (x :: q) :: qs

/-- Names in a directory that the pattern covers. A dot in front must be written. -/
def covered (p : Pattern) (f : Host.File) : List Bytes :=
  match f with
  | .directory entries =>
    let dotted := p.head?.any fun x => x.char == '.'
    let names :=
      entries.map (fun e => Bytes.ofText e.1) ++ if dotted then [['.'], ['.', '.']] else []
    names.filter fun name => (dotted || name.head? != some '.') && p.covers name
  | _ => []

/-- Paths that begin with one of the texts and go on as the segments say. -/
def walk (paths : List Bytes) : List Pattern → Machine.Doing (List Bytes)
  | [] => pure paths
  | p :: rest => do
    let step (path : Bytes) : Machine.Doing (List Bytes) := do
      if Pattern.isActive p then
        match ← Machine.Doing.ask (.look (if path.isEmpty then ['.'] else path)) with
        | .ok f => return (covered p f).map (path ++ ·)
        | .error _ => return []
      else return [path ++ p.toBytes]
    let reached ← paths.mapM step
    walk (if rest.isEmpty then reached.flatten else reached.flatten.map (· ++ ['/'])) rest

/-- The paths of files that the pattern covers, in order. -/
def files (p : Pattern) : Machine.Doing (List Bytes) := do
  let paths ← walk [[]] (segments p)
  let present ← paths.mapM fun path => do
    match ← Machine.Doing.ask (.look path) with
    | .ok _ => return [path]
    | .error _ => return []
  return present.flatten.mergeSort Bytes.inOrder

end Glob

/-! ### Words -/

inductive TildeUse where
  | never
  | atStart
  /-- Also after colons. -/
  | inValue
  deriving DecidableEq, Repr

/-- How a word is to be taken. -/
structure Manner where
  /-- It may become several fields. -/
  splits : Bool
  tilde : TildeUse
  /-- Its own text may be split like what is put in. -/
  loose : Bool
  deriving DecidableEq, Repr

def putIn (quoted : Bool) (s : Bytes) : List Symbol :=
  s.map fun c => if quoted then .quoted c else .loose c

/-- The home directory that a name after a tilde stands for. -/
def homeOf (s : Scope) (user : Bytes) : Option Bytes :=
  if user.isEmpty then (s.value? "HOME".toList).filter fun home => !home.isEmpty
  else if user = "root".toList then some "/root".toList
  else none

/-- A text without quotes, with the home directory for a tilde in front. -/
def tildeText (s : Scope) (m : Manner) (isLast : Bool) (text : Bytes) : List Symbol :=
  let own (t : Bytes) : List Symbol := t.map fun c => if m.loose then .loose c else .plain c
  match text with
  | '~' :: rest =>
    let user := rest.takeWhile fun c => c != '/' && !(m.tilde = .inValue && c == ':')
    let after := rest.drop user.length
    if after.isEmpty && !isLast then own text
    else
      match homeOf s user with
      | some home => home.map .quoted ++ own after
      | none => own text
  | _ => own text

/-- Cuts a text after each colon. -/
def afterColons : Bytes → List Bytes
  | [] => [[]]
  | c :: s =>
    if c = ':' then [c] :: afterColons s
    else
      match afterColons s with
      | [] => [[c]]
      | p :: ps => (c :: p) :: ps

def bareSymbols (s : Scope) (m : Manner) (isFirst isLast : Bool) (text : Bytes) : List Symbol :=
  let own : List Symbol := text.map fun c => if m.loose then .loose c else .plain c
  match m.tilde with
  | .never => own
  | .atStart => if isFirst then tildeText s m isLast text else own
  | .inValue =>
    match afterColons text with
    | [] => []
    | first :: rest =>
      let start : List Symbol :=
        if isFirst then tildeText s m (isLast && rest.isEmpty) first
        else first.map fun c => if m.loose then .loose c else .plain c
      start ++ (rest.zipIdx.flatMap fun (part, i) =>
        tildeText s m (isLast && i + 1 == rest.length) part)

/-- Texts with a symbol between them. -/
def joinSymbols (between : List Symbol) : List (List Symbol) → List Symbol
  | [] => []
  | [t] => t
  | t :: rest => t ++ between ++ joinSymbols between rest

/-- What a parameter comes to, if it has a value. -/
def parameterSymbols (s : Scope) (m : Manner) (name : Bytes) (quoted : Bool) :
    Option (List Symbol) :=
  if name = ['@'] ∨ name = ['*'] then
    let texts := s.arguments.map (putIn quoted)
    let between : List Symbol :=
      if quoted && m.splits && name = ['@'] then [.gap]
      else if !quoted && m.splits then
        if (s.value? Scope.separatorName).isSome then [.pause] else [.loose ' ']
      else putIn quoted s.joiner
    some (joinSymbols between texts)
  else (s.parameter? name).map (putIn quoted)

def faultText (fault : Arithmetic.Fault) (expression : Bytes) : Bytes :=
  let about (what : String) : Bytes :=
    s!"arithmetic expression: {what}: ".toList ++ ['\x22'] ++ expression ++ ['\x22']
  match fault with
  | .expected what => about s!"expecting {what}"
  | .divisionByZero => about "division by zero"
  | .noNumber text => "Illegal number: ".toList ++ text

/-- The value of an expression; its assignments are made. -/
def computed (expression : Bytes) : Act Bytes := do
  let s ← get
  match Arithmetic.compute s.parameter? expression with
  | .error fault => Act.fail (faultText fault expression)
  | .ok (n, assigned) =>
    for (name, value) in assigned do
      Act.setVariable name (toString value).toList
    return (toString n).toList

/-- How the words inside of a word are taken. -/
abbrev Expander := Manner → Word → Act (List Symbol)

def Manner.inner (m : Manner) : Manner := ⟨m.splits, .atStart, true⟩

def Manner.text : Manner := ⟨false, .atStart, false⟩

/-- A parameter, given how the words in it are expanded. -/
def useParameter (expand : Expander) (m : Manner) (name : Bytes) (use : Use) (quoted : Bool) :
    Act (List Symbol) := do
  let s ← get
  let value := parameterSymbols s m name quoted
  let required : Act (List Symbol) :=
    match value with
    | some symbols => pure symbols
    | none =>
      if s.hasOption 'u' then Act.fail (name ++ ": parameter not set".toList) else pure []
  let isAll := name = ['@'] ∨ name = ['*']
  match use with
  | .malformed => Act.fail "Bad substitution".toList
  | .value => required
  | .length =>
    let symbols ← required
    let length :=
      if isAll then (s.arguments.flatMap (s.joiner ++ ·)).length - s.joiner.length
      else (onePattern symbols).length
    return putIn quoted (Scope.number length)
  | .trimmed atEnd longest pattern =>
    let symbols ← required
    let p := onePattern (← expand .text pattern)
    let trim (symbols : List Symbol) : List Symbol :=
      let text := oneText symbols
      putIn quoted (if atEnd then p.trimEnd longest text else p.trimStart longest text)
    let first := symbols.takeWhile fun x => x.char?.isSome
    return if isAll && !atEnd then trim first ++ symbols.drop first.length else trim first
  | .remedy kind forEmpty word =>
    let present := value.filter fun symbols => !(forEmpty && (onePattern symbols).isEmpty)
    match present, kind with
    | some _, .reversed => expand m.inner word
    | none, .reversed => return []
    | some symbols, _ => return symbols
    | none, .replaced => expand m.inner word
    | none, .assigned =>
      let text := oneText (← expand .text word)
      Act.requireName name
      Act.setVariable name text
      return putIn quoted text
    | none, .refused =>
      let text := oneText (← expand .text word)
      if word.isEmpty then
        let more := if forEmpty then " or null" else ""
        Act.fail (name ++ (": parameter not set" ++ more).toList)
      else Act.fail (name ++ ": ".toList ++ text)

/-- The symbols of a word, given what scripts write; `fuel` bounds the nesting. -/
def expandWord (capture : Script → Act Bytes) : Nat → Expander
  | 0, _, _ => throw .fails
  | fuel + 1, m, w => do
    let expand := expandWord capture fuel
    let last := w.length - 1
    let parts ← w.zipIdx.mapM fun (piece, i) => do
      match piece with
      | .text s true => return if s.isEmpty then [.mark] else s.map Symbol.quoted
      | .text s false => return bareSymbols (← get) m (i == 0) (i == last) s
      | .parameter name use quoted => useParameter expand m name use quoted
      | .output script quoted => return putIn quoted (← capture script)
      | .arithmetic e quoted =>
        let text := oneText (← expand ⟨false, .never, false⟩ e)
        return putIn quoted (← computed text)
    return parts.flatten

/-- Words are nested less deeply. -/
def greatestNesting : Nat := 1000

structure Expansion where
  capture : Script → Act Bytes

namespace Expansion

def symbols (x : Expansion) (m : Manner) (w : Word) : Act (List Symbol) :=
  expandWord x.capture greatestNesting m w

/-- A word as one text. -/
def text (x : Expansion) (w : Word) : Act Bytes := do return oneText (← x.symbols .text w)

/-- The value of an assignment. -/
def value (x : Expansion) (w : Word) : Act Bytes := do
  return oneText (← x.symbols ⟨false, .inValue, false⟩ w)

/-- The text of a document. -/
def document (x : Expansion) (w : Word) : Act Bytes := do
  return oneText (← x.symbols ⟨false, .never, false⟩ w)

def pattern (x : Expansion) (w : Word) : Act Pattern := do return onePattern (← x.symbols .text w)

/-- A field, or the files that it covers. -/
def field (p : Pattern) : Act (List Bytes) := do
  if (← get).hasOption 'f' || !p.isActive then return [p.toBytes]
  else
    match ← (Glob.files p : Machine.Doing (List Bytes)) with
    | [] => return [p.toBytes]
    | paths => return paths

/-- A word as any number of fields. -/
def fields (x : Expansion) (w : Word) : Act (List Bytes) := do
  let symbols ← x.symbols ⟨true, .atStart, false⟩ w
  let separators := (← get).separators
  return (← (splitFields separators symbols).mapM field).flatten

def allFields (x : Expansion) (ws : List Word) : Act (List Bytes) := do
  return (← ws.mapM x.fields).flatten

end Expansion
end Launcher.Shell

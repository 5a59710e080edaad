import Launcher.Shell.Builtin.Basic
/-!
Commands that change what a script remembers: variables, arguments and options. -/
namespace Launcher.Shell.Builtin

/-! ### Variables -/

/-- A name and the text after its equals sign, if there is one. -/
def splitAssignment (s : Bytes) : Bytes × Option Bytes :=
  let name := s.takeWhile (· != '=')
  (name, if name.length = s.length then none else some (s.drop (name.length + 1)))

/-- Marks variables, which get values where the arguments say so. -/
def mark (word : String) (shown : Binding → Bool) (change : Scope → Bytes → Scope) : Builtin :=
  fun arguments => do
  let (given, names) ← flags "p" arguments
  if !given.isEmpty || names.isEmpty then
    Act.print (listing word.toList shown (← get))
  else
    for a in names do
      let (name, value) := splitAssignment a
      Act.requireName name
      match value with
      | some value => Act.setVariable name value
      | none => pure ()
      modify fun s => change s name
    return 0

def «export» : Builtin := mark "export" Binding.exported Scope.setExported

def readonly : Builtin := mark "readonly" Binding.fixed Scope.setFixed

/-- Keeps what variables are for the end of the function. -/
def «local» : Builtin := fun arguments => do
  if (← get).kept.isEmpty then Act.fail "not in a function".toList
  else
    for a in arguments do
      let (name, value) := splitAssignment a
      Act.requireName name
      modify fun s => s.keep name
      match value with
      | some value => Act.setVariable name value
      | none => pure ()
    return 0

def unset : Builtin := fun arguments => do
  let (given, names) ← flags "vf" arguments
  let functions := (given.getLast?.map (·.1)) == some 'f'
  for name in names do
    if functions then
      modify fun s => { s with functions := s.functions.filter fun f => f.1 != name }
    else
      Act.requireName name
      if (← get).isFixed name then Act.fail (name ++ ": is read only".toList)
      else modify fun s => s.unbind name
  return 0

/-! ### Arguments -/

def shift : Builtin := fun arguments => do
  let n ←
    match arguments with
    | [] => pure 1
    | a :: _ => number a
  let s ← get
  if n > s.arguments.length then Act.fail "can't shift that many".toList
  else
    set (s.withArguments (s.arguments.drop n))
    return 0

/-- The names of options with their letters, where they have any. -/
def optionNames : List (String × Option Char) :=
  [("errexit", some 'e'), ("noglob", some 'f'), ("ignoreeof", some 'I'), ("interactive", some 'i'),
   ("monitor", some 'm'), ("noexec", some 'n'), ("stdin", some 's'), ("xtrace", some 'x'),
   ("verbose", some 'v'), ("vi", some 'V'), ("emacs", some 'E'), ("noclobber", some 'C'),
   ("allexport", some 'a'), ("notify", some 'b'), ("nounset", some 'u'), ("privileged", some 'p'),
   ("nolog", none), ("debug", none)]

def withOption (s : Scope) (letter : Char) (on : Bool) : Scope :=
  let others := s.options.filter (· != letter)
  { s with options := if on then letter :: others else others }

def setLetter (letter : Char) (on : Bool) : Act Unit :=
  if optionNames.any fun o => o.2 == some letter then modify fun s => withOption s letter on
  else Act.fail ("Illegal option -".toList ++ [letter])

def padTo (width : Nat) (s : Bytes) : Bytes := s ++ List.replicate (width - s.length) ' '

def isOn (s : Scope) (letter : Option Char) : Bool := letter.any s.hasOption

/-- All options with their states, as a table or as commands. -/
def optionsText (s : Scope) (table : Bool) : Bytes :=
  if table then
    "Current option settings\n".toList ++ optionNames.flatMap fun (name, letter) =>
      padTo 16 name.toList ++ (if isOn s letter then "on\n" else "off\n").toList
  else
    optionNames.flatMap fun (name, letter) =>
      (if isOn s letter then "set -o " else "set +o ").toList ++ name.toList ++ ['\n']

/-- An option that is given by its name; without a name all are shown. -/
def setNamed (on : Bool) : Option Bytes → Act Unit
  | none => do
    let _ ← Act.print (optionsText (← get) on)
  | some name =>
    match optionNames.find? fun o => o.1.toList == name with
    | some (_, some letter) => modify fun s => withOption s letter on
    | some (_, none) => pure ()
    | none => Act.fail ("Illegal option -o ".toList ++ name)

/-- Sets options up to the first argument that is none; gives the arguments from there on, if they
are to be new ones. -/
def setOptions : Nat → List Bytes → Act (Option (List Bytes))
  | 0, words => pure (some words)
  | _ + 1, [] => pure none
  | fuel + 1, word :: rest => do
    match word with
    | ['-'] =>
      modify fun s => withOption (withOption s 'x' false) 'v' false
      return if rest.isEmpty then none else some rest
    | ['-', '-'] => return some rest
    | sign :: letters =>
      if sign = '-' ∨ sign = '+' then
        let on := sign == '-'
        for c in letters.filter (· != 'o') do
          setLetter c on
        if letters.contains 'o' then
          setNamed on rest.head?
          setOptions fuel (rest.drop 1)
        else setOptions fuel rest
      else return some (word :: rest)
    | [] => return some (word :: rest)

def «set» : Builtin := fun arguments => do
  if arguments.isEmpty then Act.print (listing [] (fun b => b.value.isSome) (← get))
  else
    match ← setOptions (arguments.length + 1) arguments with
    | some words =>
      modify fun s => s.withArguments words
      return 0
    | none => return 0

/-! ### Options of scripts -/

/-- What `getopts` finds: the letter, the text that belongs to it, and where it is to go on. -/
structure Found where
  letter : Char
  text : Option Bytes
  index : Nat
  position : Nat
  isOver : Bool
  complaint : Option Bytes

/-- Looks for the next option. `index` counts arguments from one; `position` is the next letter in
the argument before that, or zero. -/
def nextOption (known : Bytes) (words : List Bytes) (index position : Nat) : Found :=
  let silent := known.head? == some ':'
  let noMore (index : Nat) : Found := ⟨'?', none, index, 0, true, none⟩
  let read (letters : Bytes) (word : Bytes) (index : Nat) : Found :=
    match letters with
    | [] => noMore index
    | c :: more =>
      let position := if more.isEmpty then 0 else word.length - more.length
      match if c = ':' then none else takesText? known c with
      | none =>
        if silent then ⟨'?', some [c], index, position, false, none⟩
        else ⟨'?', none, index, position, false, some ("Illegal option -".toList ++ [c])⟩
      | some false => ⟨c, some [], index, position, false, none⟩
      | some true =>
        if !more.isEmpty then ⟨c, some more, index, 0, false, none⟩
        else
          match words[index - 1]? with
          | some text => ⟨c, some text, index + 1, 0, false, none⟩
          | none =>
            if silent then ⟨':', some [c], index, 0, false, none⟩
            else ⟨'?', none, index, 0, false, some ("No arg for -".toList ++ c :: " option".toList)⟩
  let current := (words[index - 2]?).getD []
  if position > 0 ∧ index ≥ 2 ∧ position < current.length then
    read (current.drop position) current index
  else
    match words[index - 1]? with
    | none => noMore index
    | some word =>
      if word = ['-', '-'] then noMore (index + 1)
      else
        match word with
        | '-' :: c :: more => read (c :: more) word (index + 1)
        | _ => noMore index

def getopts : Builtin := fun arguments => do
  match arguments with
  | known :: name :: rest =>
    let s ← get
    let words := if rest.isEmpty then s.arguments else rest
    let found := nextOption known words s.optionIndex s.letter
    match found.complaint with
    | some text => Act.write 2 (text ++ ['\n'])
    | none => pure ()
    let textName : Bytes := ['O', 'P', 'T', 'A', 'R', 'G']
    if !found.isOver then
      match found.text with
      | some text => Act.setVariable textName text
      | none => modify fun s => s.unbind textName
    Act.setVariable Scope.optionIndexName (Scope.number found.index)
    Act.requireName name
    Act.setVariable name [found.letter]
    modify fun s => { s with optionIndex := found.index, letter := found.position }
    return if found.isOver then 1 else 0
  | _ => Act.fail "Usage: getopts optstring var [arg...]".toList

/-! ### Reading -/

/-- A character of a line, and whether a backslash protects it. -/
abbrev Read := Char × Bool

/-- Cutting a line for several names. The last field keeps its separators, unless only one of them,
with blanks, is left at the end. -/
structure Cutting where
  /-- In reverse. -/
  fields : List Bytes
  /-- In reverse. -/
  current : Bytes
  /-- Separators at the end of the last field, which may be left out; in reverse. -/
  waiting : Option Bytes
  /-- How many fields are still to be cut; none if the last one has met a separator. -/
  left : Nat
  /-- The last separator was a blank, and one that is not may still belong to it. -/
  afterBlank : Bool

namespace Cutting

def isSeparator (separators : Bytes) (x : Read) : Bool := !x.2 && separators.contains x.1

def isBlank (separators : Bytes) (x : Read) : Bool :=
  isSeparator separators x && Scope.defaultSeparators.contains x.1

/-- Takes a character when the last field has met a separator. -/
def takeLast (separators : Bytes) (t : Cutting) (x : Read) : Cutting :=
  if isBlank separators x then { t with waiting := some (x.1 :: t.waiting.getD []) }
  else if isSeparator separators x && t.afterBlank then
    { t with waiting := t.waiting.map (x.1 :: ·), afterBlank := false }
  else
    { t with
      current := x.1 :: (t.waiting.getD [] ++ t.current), waiting := none, afterBlank := false }

def add (t : Cutting) (x : Read) : Cutting :=
  { t with current := x.1 :: t.current, afterBlank := false }

def take (separators : Bytes) (t : Cutting) (x : Read) : Cutting :=
  if t.left = 0 then takeLast separators t x
  else if t.afterBlank then
    if isBlank separators x then t
    else if isSeparator separators x then { t with afterBlank := false }
    else t.add x
  else if !isSeparator separators x then t.add x
  else
    let blank := isBlank separators x
    if t.current.isEmpty && blank then t
    else if t.left = 1 then { t with left := 0, waiting := some [x.1], afterBlank := blank }
    else
      { t with
        fields := t.current.reverse :: t.fields, current := [], left := t.left - 1
        afterBlank := blank }

def all (t : Cutting) : List Bytes :=
  (if t.current.isEmpty then t.fields else t.current.reverse :: t.fields).reverse

end Cutting

def cut (separators : Bytes) (count : Nat) (line : List Read) : List Bytes :=
  (line.foldl (Cutting.take separators) ⟨[], [], none, count, false⟩).all

/-- Reads a line; `raw` says that backslashes mean nothing. Whether it has an end comes with it. -/
def readLine (raw : Bool) : Nat → Bool → List Read → Act (List Read × Bool)
  | 0, _, held => pure (held.reverse, false)
  | fuel + 1, escaped, held => do
    match ← Act.call (.read 0 (.bytes 1)) with
    | .ok ['\x00'] => readLine raw fuel escaped held
    | .ok [c] =>
      if escaped then readLine raw fuel false (if c = '\n' then held else (c, true) :: held)
      else if c = '\\' ∧ !raw then readLine raw fuel true held
      else if c = '\n' then return (held.reverse, true)
      else readLine raw fuel false ((c, false) :: held)
    | _ => return (held.reverse, false)

/-- Gives the fields to the names, one after the other; the rest of the names get nothing. -/
def assignFields : List Bytes → List Bytes → Act Unit
  | [], _ => pure ()
  | name :: names, fields => do
    Act.requireName name
    Act.setVariable name (fields.headD [])
    assignFields names (fields.drop 1)

def read : Builtin := fun arguments => do
  let (given, names) ← flags "p:r" arguments
  if names.isEmpty then Act.fail "arg count".toList
  else
    let (line, complete) ← readLine (has given 'r') Machine.Doing.patience false []
    assignFields names (cut (← get).separators names.length line)
    return if complete then 0 else 1

end Launcher.Shell.Builtin

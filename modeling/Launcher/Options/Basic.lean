/-!
Reading the words of a command line. Options come before the first word that is none; from there
on, or after two dashes, every word is taken as it is. -/
namespace Launcher.Options

inductive OptionKind where
  /-- Stands alone. -/
  | flag
  /-- Takes a value: after an equals sign, or the next word. -/
  | valued
  | help
  | version
  deriving DecidableEq, Repr

structure OptionForm where
  long : String
  short : Option Char
  kind : OptionKind
  deriving DecidableEq, Repr

/-- What a command does with words that are no options. -/
inductive Tail where
  /-- At most so many of them; any other word that looks like an option is an error. -/
  | atMost (n : Nat)
  /-- The first of them and all that follow, whatever they look like. -/
  | verbatim
  deriving DecidableEq, Repr

inductive UsageError where
  | missingArgument
  | badValue
  | missingValue
  | conflict
  | unexpectedValue
  | unknownArgument
  | helpRequested
  | versionRequested
  deriving DecidableEq, Repr

/-- The words that a command takes. -/
structure Grammar where
  options : List OptionForm
  tail : Tail
  /-- How many words are needed besides the options. -/
  required : Nat
  /-- What is wrong with the value of an option. -/
  fault : String → String → Option UsageError

/-- An option and its value. -/
abbrev Setting := String × Option String

/-- What has been read, in order. -/
structure Given where
  settings : List Setting
  words : List String
  deriving DecidableEq, Repr

namespace Given

def empty : Given := ⟨[], []⟩

def has (g : Given) (long : String) : Bool := (g.settings.lookup long).isSome

def value? (g : Given) (long : String) : Option String := (g.settings.lookup long).join

end Given

/-- An option whose value is still to be read, or has been read but not been looked at. -/
inductive Pending where
  | none
  | awaiting (long : String)
  | held (long value : String)
  deriving DecidableEq, Repr

namespace Grammar

def long? (g : Grammar) (name : String) : Option OptionForm :=
  g.options.find? fun o => o.long == name

def short? (g : Grammar) (c : Char) : Option OptionForm :=
  g.options.find? fun o => o.short == some c

/-- Adds a setting; every option is given at most once. -/
def add (s : Given) (long : String) (value : Option String) : Except UsageError Given :=
  if s.has long then .error .conflict else .ok { s with settings := s.settings ++ [(long, value)] }

def addValue (g : Grammar) (s : Given) (long value : String) : Except UsageError Given := do
  let s ← add s long (some value)
  match g.fault long value with
  | some e => throw e
  | none => return s

/-- Deals with the option that was read last. -/
def settle (g : Grammar) (s : Given) : Pending → Except UsageError Given
  | .none => .ok s
  | .awaiting _ => .error .missingValue
  | .held long value => g.addValue s long value

/-- A word as it is seen before the first one that is no option. -/
inductive WordForm where
  | dashes
  /-- Two dashes and a name, perhaps with a value after an equals sign. -/
  | long (o : OptionForm) (value : Option String)
  /-- One dash and letters, all of which are known. -/
  | cluster (os : List OptionForm)
  /-- Looks like an option but is none. -/
  | unknown (known : List OptionForm)
  | plain
  deriving DecidableEq, Repr

/-- What stands before and after the first equals sign. -/
def cutEquals : List Char → List Char × Option (List Char)
  | [] => ([], none)
  | c :: s =>
    if c = '=' then ([], some s)
    else
      let (before, after) := cutEquals s
      (c :: before, after)

/-- The known letters at the head of a cluster, and whether all are known. -/
def clusterForms (g : Grammar) : List Char → List OptionForm × Bool
  | [] => ([], true)
  | c :: s =>
    match g.short? c with
    | none => ([], false)
    | some o =>
      let (os, all) := clusterForms g s
      (o :: os, all)

def classify (g : Grammar) (word : String) : WordForm :=
  match word.toList with
  | ['-', '-'] => .dashes
  | '-' :: '-' :: s =>
    let (name, value) := cutEquals s
    match g.long? (String.ofList name) with
    | some o => .long o (value.map String.ofList)
    | none => .unknown []
  | ['-'] => .plain
  | '-' :: s =>
    match g.clusterForms s with
    | (os, true) => .cluster os
    | (os, false) => .unknown os
  | _ => .plain

/-- An option that stands alone. -/
def alone (s : Given) (o : OptionForm) : Except UsageError Given :=
  match o.kind with
  | .help => .error .helpRequested
  | .version => .error .versionRequested
  | _ => add s o.long none

def allAlone (s : Given) : List OptionForm → Except UsageError Given
  | [] => .ok s
  | o :: rest => do
    let s ← alone s o
    allAlone s rest

/-- Takes all words that are left. -/
def takeAll (g : Grammar) (s : Given) (words : List String) : Except UsageError Given :=
  match g.tail with
  | .verbatim => .ok { s with words := s.words ++ words }
  | .atMost n =>
    if s.words.length + words.length ≤ n then .ok { s with words := s.words ++ words }
    else .error .unknownArgument

/-- Reads word after word. -/
def readFrom (g : Grammar) (s : Given) (pending : Pending) : List String → Except UsageError Given
  | [] => g.settle s pending
  | w :: rest =>
    match g.classify w with
    | .dashes => do
      let s ← g.settle s pending
      g.takeAll s rest
    | .long o value =>
      match o.kind, value with
      | .valued, none => do
        let s ← g.settle s pending
        g.readFrom s (.awaiting o.long) rest
      | .valued, some value => do
        let s ← g.settle s pending
        let s ← g.addValue s o.long value
        g.readFrom s .none rest
      | _, some _ => .error .unexpectedValue
      | _, none => do
        let s ← g.settle s pending
        let s ← alone s o
        g.readFrom s .none rest
    | .cluster os => do
      let s ← g.settle s pending
      let s ← allAlone s os
      g.readFrom s .none rest
    | form =>
      match g.tail, form, pending with
      | .verbatim, _, .awaiting long => g.readFrom s (.held long w) rest
      | .verbatim, _, _ => do
        let s ← g.settle s pending
        g.takeAll s (w :: rest)
      | .atMost _, .unknown os, _ => do
        let s ← g.settle s pending
        let _ ← allAlone s os
        throw .unknownArgument
      | .atMost n, _, _ => do
        let s ← g.settle s pending
        if s.words.length < n then g.readFrom { s with words := s.words ++ [w] } .none rest
        else throw .unknownArgument

/-- The settings and words of a command line. -/
def read (g : Grammar) (words : List String) : Except UsageError Given := do
  let given ← g.readFrom .empty .none words
  if given.words.length < g.required then throw .missingArgument else return given

end Grammar
end Launcher.Options

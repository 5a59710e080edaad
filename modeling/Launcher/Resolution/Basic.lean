import Launcher.Resolution.Launch
import Launcher.Resolution.Failure
/-!
Resolution gives every parameter of a mode a text, in declared order and by the first rule that
applies: the value of a matched launch, the default, the only candidate, the next explicit
override. A parameter that no rule decides ends the resolution. -/
namespace Launcher

inductive Warning where
  /-- A mode with a matched mode was resolved without an earlier launch. -/
  | noMatchedLaunch (matched mode : String)
  /-- Overrides that no parameter took. -/
  | unusedArguments (mode : String) (leftover : List String)
  deriving DecidableEq, Repr

def Warning.message : Warning → String
  | .noMatchedLaunch matched mode =>
    s!"No launch of matched mode '{matched}' supplied for '{mode}'; "
      ++ "matched parameters will be selected from explicitly given arguments."
  | .unusedArguments mode leftover =>
    s!"Ignoring {leftover.length} unused argument(s) for '{mode}': {Text.quotedList leftover}"

namespace Resolution

/-- The value that the matched launch recorded under the parameter's name, unless the matched mode
leaves the parameter out. -/
def matchedValue (mode : Mode) (matched : Option Launch) (p : Parameter) : Option String :=
  if mode.isUnmatched p.name then none else matched.bind fun l => l.parameter? p.name

/-- What a pass over the parameters comes to. -/
inductive Progress where
  /-- A value for every parameter, and the overrides that were not needed. -/
  | complete (values : List Value) (leftover : List String)
  /-- The parameter after `decided` others had no value; `candidates` are what discovery said. -/
  | stopped (decided : Nat) (p : Parameter) (candidates : Option Candidates)
      (later : List Parameter)
  deriving DecidableEq, Repr

def Progress.after (value : Value) : Progress → Progress
  | .complete values leftover => .complete (value :: values) leftover
  | .stopped decided p candidates later => .stopped (decided + 1) p candidates later

/-- Goes through the parameters with the overrides that are left. -/
def choose (discovery : Discovery σ) (mode : Mode) (matched : Option Launch) :
    List Parameter → List String → σ → Progress × σ
  | [], overrides, world => (.complete [] overrides, world)
  | p :: rest, overrides, world =>
    match matchedValue mode matched p with
    | some text =>
      let (progress, world) := choose discovery mode matched rest overrides world
      (progress.after (.text text), world)
    | none =>
      match p.default with
      | some value =>
        let (progress, world) := choose discovery mode matched rest overrides world
        (progress.after value, world)
      | none =>
        let (candidates, world) := p.candidates discovery world
        match candidates.bind Candidates.single with
        | some value =>
          let (progress, world) := choose discovery mode matched rest overrides world
          (progress.after value, world)
        | none =>
          match overrides with
          | text :: overrides =>
            let (progress, world) := choose discovery mode matched rest overrides world
            (progress.after (.text text), world)
          | [] => (.stopped 0 p candidates rest, world)

def reason (candidates : Option Candidates) : FailureReason :=
  if (candidates.map Candidates.count).getD 0 > 1 then .ambiguousCandidates else .noCandidates

/-- A parameter of the report; an empty set of candidates counts as none. -/
def unresolved (p : Parameter) (candidates : Option Candidates) : Unresolved :=
  ⟨p.name, candidates.filter fun c => !c.isEmpty⟩

/-- What discovery says about parameters that were not reached. -/
def survey (discovery : Discovery σ) : List Parameter → σ → List Unresolved × σ
  | [], world => ([], world)
  | p :: rest, world =>
    let (candidates, world) := p.candidates discovery world
    let (others, world) := survey discovery rest world
    (unresolved p candidates :: others, world)

end Resolution

/-- A launch or a failure, and what was worth a warning on the way. -/
structure Resolution where
  result : Except ResolutionFailure Launch
  warnings : List Warning

namespace Resolution

def matchWarnings (mode : Mode) (matched : Option Launch) : List Warning :=
  match matched, mode.matched with
  | none, some other => [.noMatchedLaunch other.name mode.qualifiedName]
  | _, _ => []

def leftoverWarnings (mode : Mode) (leftover : List String) : List Warning :=
  if leftover.isEmpty then [] else [.unusedArguments mode.qualifiedName leftover]

/-- Values become text only when every parameter has one. -/
def conclude (discovery : Discovery σ) (program : Program) (mode : Mode)
    (matched : Option Launch) (progress : Progress) (world : σ) : Resolution × σ :=
  match progress with
  | .complete values leftover =>
    ({ result := .ok (.ofArguments program mode (values.map Value.render))
       warnings := matchWarnings mode matched ++ leftoverWarnings mode leftover }, world)
  | .stopped decided p candidates later =>
    let (others, world) := survey discovery later world
    ({ result := .error
         { mode := mode.name, index := decided, reason := reason candidates
           remaining := unresolved p candidates :: others }
       warnings := matchWarnings mode matched }, world)

end Resolution

/-- Resolves a mode of the program; `matched` is an earlier launch to take values from. -/
def resolve (discovery : Discovery σ) (program : Program) (mode : Mode) (matched : Option Launch)
    (overrides : List String) (world : σ) : Resolution × σ :=
  let (progress, world) :=
    Resolution.choose discovery mode matched mode.parameters overrides world
  Resolution.conclude discovery program mode matched progress world

/-- The launch that a mode is matched against: the latest earlier one of a mode with the name of
the matched mode, else the one right before. -/
def matchedLaunch (earlier : List Launch) (mode : Mode) : Option Launch :=
  mode.matched.bind fun wanted =>
    (earlier.reverse.find? fun l => l.mode.name == wanted.name).or earlier.getLast?

end Launcher

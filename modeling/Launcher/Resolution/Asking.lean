import Launcher.Resolution.Basic
/-!
Resolution with a user who is asked for what is missing: each answer is added to the overrides, and
the mode is resolved again. -/
namespace Launcher

structure Asking where
  /-- Of the last resolution. -/
  result : Except ResolutionFailure Launch
  /-- Of all resolutions. -/
  warnings : List Warning
  /-- The failures that were answered, in order. -/
  answered : List ResolutionFailure
  /-- Answers that were not needed. -/
  left : List String

/-- Resolves until nothing is missing or there is no answer left. -/
def resolveAsking (discovery : Discovery σ) (program : Program) (mode : Mode)
    (matched : Option Launch) (overrides : List String) : List String → σ → Asking × σ
  | [], world =>
    let (r, world) := resolve discovery program mode matched overrides world
    (⟨r.result, r.warnings, [], []⟩, world)
  | answer :: rest, world =>
    let (r, world) := resolve discovery program mode matched overrides world
    match r.result with
    | .ok launch => (⟨.ok launch, r.warnings, [], answer :: rest⟩, world)
    | .error failure =>
      let (later, world) :=
        resolveAsking discovery program mode matched (overrides ++ [answer]) rest world
      ({ later with
          warnings := r.warnings ++ later.warnings
          answered := failure :: later.answered }, world)

end Launcher

import Launcher.Candidates
/-!
Why a resolution stopped, what is left to decide, and the report about it. -/
namespace Launcher

inductive FailureReason where
  /-- Nothing is known about the values, or there is none. -/
  | noCandidates
  /-- There is more than one value and nothing picks one. -/
  | ambiguousCandidates
  deriving DecidableEq, Repr

def FailureReason.name : FailureReason → String
  | .noCandidates => "no-candidates"
  | .ambiguousCandidates => "ambiguous-candidates"

/-- A parameter without a value, and its candidates if there are any. -/
structure Unresolved where
  name : String
  candidates : Option Candidates
  deriving DecidableEq, Repr

/-- One line of a report, such as `    port (candidates: 1000..65535)`. -/
def Unresolved.line (u : Unresolved) : String :=
  let count := (u.candidates.map Candidates.count).getD 0
  let plural := if count = 1 then "" else "s"
  let values := (u.candidates.map Candidates.render).getD "none"
  s!"    {u.name} (candidate{plural}: {values})"

structure ResolutionFailure where
  mode : String
  /-- The position of the failing parameter. -/
  index : Nat
  reason : FailureReason
  /-- The failing parameter and all that follow it. -/
  remaining : List Unresolved
  deriving DecidableEq, Repr

namespace ResolutionFailure

def headline (f : ResolutionFailure) : String :=
  match f.reason with
  | .noCandidates => s!"insufficient arguments supplied for mode \"{f.mode}\""
  | .ambiguousCandidates =>
    s!"failed to automatically select unspecified arguments for mode \"{f.mode}\""

def failed? (f : ResolutionFailure) : Option Unresolved := f.remaining.head?

/-- The headline, and a line for each parameter that is left. -/
def body (f : ResolutionFailure) : String :=
  s!"{f.headline}\nRemaining arguments are:\n"
    ++ String.join (f.remaining.map fun u => u.line ++ "\n")

def render (f : ResolutionFailure) : String := "error: " ++ f.body

end ResolutionFailure
end Launcher

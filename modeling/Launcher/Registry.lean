import Launcher.Candidates
import Launcher.Text.Quoted
/-!
Which function discovers the candidates of which type of parameter. A function is registered for a
type and a subtype, or for the type alone, where it serves every subtype that has none of its
own. -/
namespace Launcher

/-- Discovery may read and change the state of the world that it looks at, so it may answer
differently from call to call. -/
abbrev Selector (σ : Type) := σ → Candidates × σ

/-- One selector for each pair of a type and an optional subtype. -/
structure Registry (σ : Type) where
  selectors : List ((String × Option String) × Selector σ)

namespace Registry

def empty : Registry σ := ⟨[]⟩

/-- The list with the pair's selector put in, in place of the one it had. -/
def put (key : String × Option String) (selector : Selector σ) :
    List ((String × Option String) × Selector σ) → List ((String × Option String) × Selector σ)
  | [] => [(key, selector)]
  | (k, s) :: rest => if k = key then (key, selector) :: rest else (k, s) :: put key selector rest

def register (registry : Registry σ) (kind : String) (subtype : Option String)
    (selector : Selector σ) : Registry σ :=
  ⟨put (kind, subtype) selector registry.selectors⟩

def own? (registry : Registry σ) (kind : String) (subtype : Option String) :
    Option (Selector σ) :=
  registry.selectors.lookup (kind, subtype)

/-- The selector that serves the pair: its own, else the one of the type. -/
def selector? (registry : Registry σ) (kind : String) (subtype : Option String) :
    Option (Selector σ) :=
  (registry.own? kind subtype).or (registry.own? kind none)

def isRegistered (registry : Registry σ) (kind : String) (subtype : Option String) : Bool :=
  (registry.own? kind subtype).isSome

/-- Runs discovery once; nothing is remembered from earlier runs. -/
def candidatesFor (registry : Registry σ) (kind : String) (subtype : Option String) (world : σ) :
    Option Candidates × σ :=
  match registry.selector? kind subtype with
  | none => (none, world)
  | some selector =>
    let (candidates, world) := selector world
    (some candidates, world)

/-- `type` or `type:subtype`. -/
def label (kind : String) : Option String → String
  | none => kind
  | some subtype => kind ++ ":" ++ subtype

def labels (registry : Registry σ) : List String :=
  (registry.selectors.map fun e => label e.1.1 e.1.2).mergeSort fun a b => decide (a ≤ b)

/-- The registered pairs in order of their labels, for diagnostics. -/
def describe (registry : Registry σ) : String :=
  "CandidateRegistry \x7b selectors: " ++ Text.quotedList registry.labels ++ " \x7d"

end Registry
end Launcher

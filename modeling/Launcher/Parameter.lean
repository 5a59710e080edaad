import Launcher.Registry
/-!
Declarations of named program arguments. -/
namespace Launcher

structure Parameter where
  name : String
  /-- What the values mean, such as `ip-port`. -/
  kind : String
  subtype : Option String
  default : Option Value
  /-- Whether a mode may leave the parameter out; resolution does not look at it. -/
  optional : Bool
  deriving DecidableEq, Repr

namespace Parameter

/-- The type whose only candidate is the parameter's own name. -/
def literalKind : String := "literal"

def literal (name : String) : Parameter := ⟨name, literalKind, none, none, false⟩

def isLiteral (p : Parameter) : Bool := p.kind == literalKind

def label (p : Parameter) : String := Registry.label p.kind p.subtype

end Parameter

/-- How the values are found out that a parameter can have. -/
abbrev Discovery (σ : Type) := Parameter → σ → Option Candidates × σ

/-- Discovery by the registered selectors. -/
def Registry.discovery (registry : Registry σ) : Discovery σ :=
  fun p world => registry.candidatesFor p.kind p.subtype world

/-- What is known about the values of the parameter. Discovery runs unless it is a literal. -/
def Parameter.candidates (discovery : Discovery σ) (p : Parameter) (world : σ) :
    Option Candidates × σ :=
  if p.isLiteral then (some (.list [.text p.name]), world) else discovery p world

end Launcher

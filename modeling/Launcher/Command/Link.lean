import Launcher.Resolution.Asking
import Launcher.Chain
import Launcher.Text.Styled
/-!
One link of a chain: its target is looked up and resolved against the launches before it. -/
namespace Launcher.Command

open Text

/-- What the user is told when a mode with a matched mode has no launch to take values from. -/
def missingMatchNotice (p : Palette) (mode : Mode) (matched : Option Launch) : String :=
  match matched, mode.matched with
  | none, some other =>
    p.paint (.boldIn .yellow) "warning:" ++
      s!" mode '{mode.qualifiedName}' matches '{other.name}', but no launch of it is available; "
      ++ "matched parameters must be given explicitly.\n"
  | _, _ => ""

/-- Why a link has no launch. -/
inductive LinkError where
  | lookup (cause : LookupError)
  | resolution (failure : ResolutionFailure)
  deriving DecidableEq, Repr

/-- The result of a link, and what was shown on the way. -/
structure LinkOutcome where
  result : Except LinkError Launch
  warnings : List Warning
  notice : String
  /-- Answers that are left for later links. -/
  answers : List String

/-- The report of a failed resolution, whose format scripts rely on. -/
def failureText (p : Palette) (failure : ResolutionFailure) : String :=
  p.paint (.boldIn .red) "error:" ++ " " ++ failure.body

/-- Resolves a mode that has been looked up, with a notice. The user is asked for what is missing,
as long as there are answers. -/
def resolveMode (p : Palette) (discovery : Discovery σ) (program : Program) (mode : Mode)
    (matched : Option Launch) (overrides answers : List String) (world : σ) : LinkOutcome × σ :=
  let (asking, world) := resolveAsking discovery program mode matched overrides answers world
  ({ result := asking.result.mapError .resolution
     warnings := asking.warnings
     notice :=
       missingMatchNotice p mode matched ++ String.join (asking.answered.map (failureText p))
     answers := asking.left }, world)

/-- Looks the target up and resolves it against the earlier launches of the chain. -/
def resolveLink (p : Palette) (catalog : Catalog) (discovery : Discovery σ) (earlier : List Launch)
    (link : ChainLink) (answers : List String) (world : σ) : LinkOutcome × σ :=
  match catalog.target link.target with
  | .error e => (⟨.error (.lookup e), [], "", answers⟩, world)
  | .ok (program, mode) =>
    resolveMode p discovery program mode (matchedLaunch earlier mode) link.overrides answers world

end Launcher.Command

/-!
Chains of targets on one command line, with `+` between them. -/
namespace Launcher

/-- A target and the values given to it. -/
structure ChainLink where
  target : String
  overrides : List String
  deriving DecidableEq, Repr

namespace Chain

def separator : String := "+"

/-- A link is missing before, after or between separators. -/
def emptyLinkMessage : String := "Every '+' must be followed and preceded by a target."

/-- The words between separators; there is one group more than there are separators. -/
def groups : List String → List (List String)
  | [] => [[]]
  | w :: ws =>
    if w = separator then [] :: groups ws
    else
      match groups ws with
      | [] => [[w]]
      | g :: gs => (w :: g) :: gs

def link? : List String → Option ChainLink
  | [] => none
  | target :: overrides => some ⟨target, overrides⟩

/-- Every group must have a target. -/
def split? (words : List String) : Option (List ChainLink) := (groups words).mapM link?

def words (l : ChainLink) : List String := l.target :: l.overrides

/-- The links with single separators between them. -/
def join : List ChainLink → List String
  | [] => []
  | [l] => words l
  | l :: rest => words l ++ separator :: join rest

end Chain
end Launcher

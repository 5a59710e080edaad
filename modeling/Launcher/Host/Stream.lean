/-!
The two streams that a program writes to. -/
namespace Launcher

inductive Stream where
  | stdout
  | stderr
  deriving DecidableEq, Repr

end Launcher

import Launcher.Host.Errno
/-!
Refusals of the operating system. -/
namespace Launcher

/-- Why the operating system does not give what it is asked for. -/
inductive OsError where
  | errno (e : Errno)
  /-- A path with a NUL cannot be looked up. -/
  | nulInPath
  /-- A command with a NUL in its path or an argument cannot be started. -/
  | nulInCommand
  /-- A file that is no text. -/
  | notUtf8
  deriving DecidableEq, Repr

def OsError.message : OsError → String
  | .errno e => e.message
  | .nulInPath => "file name contained an unexpected NUL byte"
  | .nulInCommand => "nul byte found in provided data"
  | .notUtf8 => "stream did not contain valid UTF-8"

end Launcher

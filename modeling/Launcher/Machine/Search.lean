import Launcher.Host.Programs
import Launcher.Machine.Activity
/-!
The search for the file of a program, and becoming that program. -/
namespace Launcher.Machine

/-- Where programs are looked for if nothing says where. -/
def standardSearch : Bytes := "/usr/local/sbin:/usr/local/bin:/usr/sbin:/usr/bin:/sbin:/bin".toList

/-- The paths where a program may be. -/
def candidates (search name : Bytes) : List Bytes :=
  if name.contains '/' then [name]
  else
    (Host.Image.splitColons search).map fun place =>
      if place.isEmpty then name else place ++ '/' :: name

/-- Whether a path just leads nowhere. -/
def isAbsence (e : Errno) : Bool := e = .noEntry ∨ e = .notADirectory

namespace Doing

/-- The first of the paths at which there is a file, or why there is none. -/
def firstFile (cause : Errno) : List Bytes → Doing (Except Errno Bytes)
  | [] => pure (.error cause)
  | path :: rest => do
    match ← ask (.look path) with
    | .ok (.directory _) => firstFile .accessDenied rest
    | .ok _ => return .ok path
    | .error e => firstFile (if isAbsence e then cause else e) rest

/-- Becomes the program at one of the paths. A file that is no program is a script for a shell. What
comes back is why no program could be started. -/
def become (name : Bytes) (arguments : List Bytes) (environment : List (Bytes × Bytes))
    (cause : Errno) : List Bytes → Doing Errno
  | [] => pure cause
  | path :: rest => do
    let e ← ask (.become path name arguments environment)
    if e = .execFormat then
      let shell := "/bin/sh".toList
      ask (.become shell shell (path :: arguments) environment)
    else become name arguments environment (if isAbsence e then cause else e) rest

end Doing
end Launcher.Machine

import Launcher.Host.Files
import Launcher.Machine.Bytes
/-!
Places in a tree of files: the names on the way from the root, whether or not there is a file. -/
namespace Launcher.Machine

abbrev Place := List String

namespace Place

/-- The place as an absolute path. -/
def toBytes (place : Place) : Bytes :=
  if place.isEmpty then ['/'] else place.flatMap fun name => '/' :: Bytes.ofText name

/-- Goes along the segments of a path. A place without a file is fine at their end. -/
def follow (tree : Host.File) (here : Place) : List (List Char) → Except Errno Place
  | [] => .ok here
  | segment :: rest =>
    match tree.below? here with
    | some (.directory entries) =>
      let name := Bytes.toText segment
      if Path.isVoid segment then follow tree here rest
      else if segment = ['.', '.'] then follow tree here.dropLast rest
      else if segment.length > 255 then .error .nameTooLong
      else if (entries.lookup name).isSome || rest.all List.isEmpty then
        follow tree (here ++ [name]) rest
      else .error .noEntry
    | some _ => .error .notADirectory
    | none => .ok here

/-- The place that a path leads to from a directory. -/
def find (tree : Host.File) (directory : Place) (path : Bytes) : Except Errno Place :=
  if path.isEmpty then .error .noEntry
  else if path.length ≥ 4096 then .error .nameTooLong
  else if Path.isAbsolute path then follow tree [] (Path.segments path)
  else follow tree directory (Path.segments path)

/-- The file that a path leads to. -/
def file (tree : Host.File) (directory : Place) (path : Bytes) : Except Errno Host.File :=
  match find tree directory path with
  | .error e => .error e
  | .ok place =>
    match tree.below? place with
    | some f => .ok f
    | none => .error .noEntry

end Place
end Launcher.Machine

import Launcher.Toml.Value
/-!
The rules by which keys and headers extend tables. A table is defined once: by its header, by
dotted keys under one header, or between braces. -/
namespace Launcher.Toml

/-- Keys and headers have at most so many parts. -/
def greatestDepth : Nat := 80

namespace Entries

/-- The entries with the value of one key replaced by what the function makes of it. -/
def update (key : String) (f : Option Value → Option Value) : Entries → Option Entries
  | [] => (f none).map fun v => [(key, v)]
  | (k, v) :: rest =>
    if k = key then (f (some v)).map fun v => (k, v) :: rest
    else (update key f rest).map ((k, v) :: ·)

/-- Replaces the last element of a list. -/
def updateLast (f : Value → Option Value) : List Value → Option (List Value)
  | [] => none
  | [v] => (f v).map ([·])
  | v :: rest => (updateLast f rest).map (v :: ·)

/-- Changes the entries of the table that a key holds, and of the last one if it holds a list of
tables with headers. -/
def within (f : Entries → Option Entries) : Value → Option Value
  | .table origin entries => (f entries).map (.table origin)
  | .array true items =>
    (updateLast
      (fun
        | .table origin entries => (f entries).map (.table origin)
        | _ => none)
      items).map (.array true)
  | _ => none

/-- Whether a dotted key may pass through what a key holds. -/
def admitsDotted : Value → Bool
  | .table .passed _ => true
  | .table .dotted _ => true
  | .array true _ => true
  | _ => false

/-- Whether a header may pass through what a key holds. -/
def admitsHeader : Value → Bool
  | .table .inline _ => false
  | .table _ _ => true
  | .array true _ => true
  | _ => false

/-- Gives the key a value; the table that it ends in must be one of dotted keys, unless the key
has a single part. -/
def put (value : Value) : List String → Entries → Option Entries
  | [], _ => none
  | [key], entries => update key (fun held => if held.isNone then some value else none) entries
  | key :: path, entries =>
    update key
      (fun
        | none => (put value path []).map (.table .dotted)
        | some held =>
          let mixed := path.length = 1 && !(held matches .table .dotted _)
          if admitsDotted held && !mixed then within (put value path) held else none)
      entries

/-- Follows a header to its last part and changes what that holds. -/
def follow (f : Option Value → Option Value) : List String → Entries → Option Entries
  | [], _ => none
  | [key], entries => update key f entries
  | key :: path, entries =>
    update key
      (fun
        | none => (follow f path []).map (.table .passed)
        | some held => if admitsHeader held then within (follow f path) held else none)
      entries

/-- What a header in single brackets makes of what its key holds. -/
def define : Option Value → Option Value
  | none => some (.table .header [])
  | some (.table .passed entries) => some (.table .header entries)
  | _ => none

/-- What a header in double brackets makes of what its key holds. -/
def append : Option Value → Option Value
  | none => some (.array true [.table .header []])
  | some (.array true items) => some (.array true (items ++ [.table .header []]))
  | _ => none

/-- Changes the entries of the table under a header that has been opened. -/
def under (f : Entries → Option Entries) : List String → Entries → Option Entries
  | [], entries => f entries
  | key :: path, entries =>
    update key (fun held => held.bind (within (under f path))) entries

end Entries
end Launcher.Toml

import Launcher.Utility.Basic
/-!
Programs that make files, change them, show them and take them away. -/
namespace Launcher.Utility

open Machine (Doing)

/-- Complains that something cannot be done with a file. -/
def cannot (i : Invocation) (what : String) (path : Bytes) (e : Errno) : Doing Nat := do
  i.complain ("cannot ".toList ++ what.toList ++ ' ' :: Format.quoted path ++ ": ".toList
    ++ e.description.toList)
  return 1

def touch : Program := fun i => do
  let (_, paths) := splitFlags i.arguments
  if paths.isEmpty then i.misuse "missing file operand"
  else
    forEach
      (fun path => do
        match ← Doing.ask (.look path) with
        | .ok _ => return 0
        | .error _ =>
          match ← Doing.ask (.openFile 3 path .appending) with
          | none => return 0
          | some e => cannot i "touch" path e) paths

/-- A path and the paths of its directories, the first one first. -/
def stepsTo (path : Bytes) : List Bytes :=
  let names := Path.components path
  (List.range names.length).map fun n =>
    (if Path.isAbsolute path then ['/'] else []) ++ Path.joinSegments (names.take (n + 1))

def makeDirectory (i : Invocation) (mayExist : Bool) (path : Bytes) : Doing Nat := do
  match ← Doing.ask (.look path) with
  | .ok f =>
    if mayExist && f.isDirectory then return 0
    else cannot i "create directory" path .fileExists
  | .error _ =>
    match ← Doing.ask (.store path (some (.directory []))) with
    | none => return 0
    | some e => cannot i "create directory" path e

def mkdir : Program := fun i => do
  let (flags, paths) := splitFlags i.arguments
  if paths.isEmpty then i.misuse "missing operand"
  else if flags.contains 'p' then forEach (makeDirectory i true) (paths.flatMap stepsTo)
  else forEach (makeDirectory i false) paths

def rm : Program := fun i => do
  let (flags, paths) := splitFlags i.arguments
  let forced := flags.contains 'f'
  let deep := flags.contains 'r' || flags.contains 'R'
  if paths.isEmpty && !forced then i.misuse "missing operand"
  else
    forEach
      (fun path => do
        match ← Doing.ask (.look path) with
        | .error e => if forced then return 0 else cannot i "remove" path e
        | .ok f =>
          if f.isDirectory && !deep then cannot i "remove" path .isADirectory
          else
            let _ ← Doing.ask (.store path none)
            return 0) paths

def rmdir : Program := fun i => do
  let failed (path : Bytes) (e : Errno) : Doing Nat := do
    i.complainOf ("failed to remove ".toList ++ Format.quoted path) e
    return 1
  if i.arguments.isEmpty then i.misuse "missing operand"
  else
    forEach
      (fun path => do
        match ← Doing.ask (.look path) with
        | .error e => failed path e
        | .ok (.directory []) =>
          let _ ← Doing.ask (.store path none)
          return 0
        | .ok (.directory _) => failed path .notEmpty
        | .ok _ => failed path .notADirectory) i.arguments

/-- Names in their order, one on each line. -/
def namesText (entries : List (String × Host.File)) (hidden : Bool) : Bytes :=
  let names := (entries.map (·.1)).filter fun name => hidden || !name.startsWith "."
  (names.mergeSort fun a b => decide (a ≤ b)).flatMap fun name => Bytes.ofText name ++ ['\n']

def ls : Program := fun i => do
  let (flags, paths) := splitFlags i.arguments
  let hidden := flags.contains 'A' || flags.contains 'a'
  let dots : Bytes := if flags.contains 'a' then ['.', '\n', '.', '.', '\n'] else []
  forEach
    (fun path => do
      match ← Doing.ask (.look path) with
      | .ok (.directory entries) =>
        if flags.contains 'd' then print i (path ++ ['\n'])
        else print i (dots ++ namesText entries hidden)
      | .ok _ => print i (path ++ ['\n'])
      | .error e =>
        let _ ← cannot i "access" path e
        return 2) (if paths.isEmpty then [['.']] else paths)

/-- The place of a copy: below a directory it keeps its name. -/
def placeOf (source target : Bytes) : Doing Bytes := do
  match ← Doing.ask (.look target) with
  | .ok (.directory _) =>
    return Path.join target (Path.joinSegments (Path.components source).getLast?.toList)
  | _ => return target

/-- Copies files to the last path, or moves them there. -/
def transfer (moves deep : Bool) (i : Invocation) : Doing Nat := do
  let (_, paths) := splitFlags i.arguments
  match paths.reverse with
  | target :: source :: more =>
    forEach
      (fun source => do
        match ← Doing.ask (.look source) with
        | .error e => cannot i "stat" source e
        | .ok f =>
          if f.isDirectory && !moves && !deep then
            i.complain ("-r not specified; omitting directory ".toList ++ Format.quoted source)
            return 1
          else
            let place ← placeOf source target
            match ← Doing.ask (.store place (some f)) with
            | some e => cannot i "create regular file" place e
            | none =>
              if moves && place != source then
                let _ ← Doing.ask (.store source none)
              return 0) (source :: more).reverse
  | [one] => i.misuse ("missing destination file operand after '" ++ Bytes.toText one ++ "'")
  | [] => i.misuse "missing file operand"

def mv : Program := transfer true true

def cp : Program := fun i =>
  let flags := (splitFlags i.arguments).1
  transfer false (flags.contains 'r' || flags.contains 'R' || flags.contains 'a') i

/-- Whether a mode makes files executable, if it says so. -/
def executableBy? (mode : Bytes) : Option Bool :=
  match natural? mode with
  | some _ => some (mode.any fun c => c.toNat % 2 == 1)
  | none =>
    if !mode.contains 'x' then none
    else if mode.contains '-' then some false
    else some true

def chmod : Program := fun i => do
  match i.arguments with
  | mode :: path :: more =>
    forEach
      (fun path => do
        match ← Doing.ask (.look path) with
        | .error e => cannot i "access" path e
        | .ok (.regular bytes executable) =>
          let executable := (executableBy? mode).getD executable
          let _ ← Doing.ask (.store path (some (.regular bytes executable)))
          return 0
        | .ok _ => return 0) (path :: more)
  | [mode] => i.misuse ("missing operand after '" ++ Bytes.toText mode ++ "'")
  | [] => i.misuse "missing operand"

end Launcher.Utility

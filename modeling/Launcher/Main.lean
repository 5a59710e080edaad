import Launcher.Command.Demand
import Launcher.Command.Dispatch
import Launcher.Discovery
import Launcher.Machine.Rehearsal
/-!
The program: it looks at the variables and files that the command line needs, runs the command, and
shows what was written. Launches are rehearsed. -/
namespace Launcher.Main

/-- The refusal that an error stands for. -/
def osErrorOf : IO.Error → OsError
  | .noFileOrDirectory _ code _ => .errno ⟨code.toNat⟩
  | .permissionDenied _ code _ => .errno ⟨code.toNat⟩
  | .inappropriateType _ code _ => .errno ⟨code.toNat⟩
  | .invalidArgument _ code _ => .errno ⟨code.toNat⟩
  | .resourceExhausted _ code _ => .errno ⟨code.toNat⟩
  | .otherError code _ => .errno ⟨code.toNat⟩
  | _ => .errno .noEntry

def fileText (path : String) : IO (Except OsError String) := do
  if Host.File.hasNul path then return .error .nulInPath
  try
    let bytes ← IO.FS.readBinFile path
    match String.fromUTF8? bytes with
    | some text => return .ok text
    | none => return .error .notUtf8
  catch e => return .error (osErrorOf e)

/-- Adds the values of variables that are set. -/
def withVariables (e : Environment) (names : List String) : IO Environment := do
  let mut bindings := e.bindings
  for name in names do
    if (bindings.lookup name).isNone then
      if let some value ← IO.getEnv name then
        bindings := bindings ++ [(name, value)]
  return { e with bindings }

/-- Looks at one file after another until no more are needed. -/
def lookAround (words : List String) :
    Nat → Environment → Command.KnownFiles → IO (Environment × Command.KnownFiles)
  | 0, e, known => return (e, known)
  | fuel + 1, e, known => do
    match Command.nextFile? e known words with
    | none => return (e, known)
    | some path =>
      let text ← fileText path
      let mentioned := (text.toOption.map Command.mentionedVariables).getD []
      let e ← withVariables e mentioned
      lookAround words fuel e (known ++ [(path, text)])

/-- More files than any catalog has. -/
def mostFiles : Nat := 100000

/-- Nothing but the loopback addresses is known about the host. -/
def hostFacts : HostFacts where
  interfaceAddresses := [Address.parse? "127.0.0.1", Address.parse? "::1"]
  directoryNames _ := []

def run (words : List String) : IO UInt32 := do
  let directory ← IO.currentDir
  let e ← withVariables ⟨[], directory.toString, none⟩ Command.standardVariables
  let (e, known) ← lookAround words mostFiles e []
  let s : Surroundings := ⟨e, Command.KnownFiles.read known⟩
  let discovery := (Registry.builtin fun (_ : Rehearsal) => hostFacts).discovery
  let machine := Machine.ofFiles e Machine.systemFiles
  let (code, r) := Command.run Rehearsal.host s [] discovery words (.ofMachine machine [])
  let world := r.machine.readToEnd.world
  IO.print (world.text .stdout)
  IO.eprint (world.text .stderr)
  return code.toUInt32

end Launcher.Main

def main (words : List String) : IO UInt32 := Launcher.Main.run words

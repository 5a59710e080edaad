import Launcher.Host.Basic
import Launcher.Parameter
/-!
Hosts and discovery with an account of how they were used. The account stands beside the world and
changes nothing in it. -/
namespace Launcher

/-- What a command did to the system. -/
inductive Deed where
  | started (launch : Launch) (pid : Nat)
  | failedToStart (launch : Launch) (cause : SpawnError)
  /-- `recorded` says whether the exit of the process was recorded at that moment. -/
  | signalled (pid : Nat) (signal : Signal) (recorded : Bool)
  | wrote (stream : Stream) (text : String)

namespace Host

/-- The same host; what is done on it is written down in order. -/
def accounted (host : Host σ) : Host (σ × List Deed) where
  start launch w :=
    match host.start launch w.1 with
    | (.ok pid, world) => (.ok pid, (world, w.2 ++ [.started launch pid]))
    | (.error cause, world) => (.error cause, (world, w.2 ++ [.failedToStart launch cause]))
  isRecorded pid w := host.isRecorded pid w.1
  kill pid signal w :=
    let (refusal, world) := host.kill pid signal w.1
    (refusal, (world, w.2 ++ [.signalled pid signal (host.isRecorded pid w.1)]))
  write stream text w := (host.write stream text w.1, w.2 ++ [.wrote stream text])
  watch pids timeout w :=
    let (result, world) := host.watch pids timeout w.1
    (result, (world, w.2))
  next s w :=
    let (event, world) := host.next s w.1
    (event, (world, w.2))

end Host

namespace Discovery

/-- The same discovery in a world with something beside it. -/
def beside (discovery : Discovery σ) : Discovery (σ × α) := fun p w =>
  let (candidates, world) := discovery p w.1
  (candidates, (world, w.2))

/-- The same discovery; the parameters it was asked about are written down in order. -/
def accounted (discovery : Discovery σ) : Discovery (σ × List Parameter) := fun p w =>
  let (candidates, world) := discovery p w.1
  (candidates, (world, w.2 ++ [p]))

/-- Answers the same for a parameter in every world. -/
def IsStable (discovery : Discovery σ) : Prop :=
  ∀ p world other, (discovery p world).1 = (discovery p other).1

end Discovery
end Launcher

import Launcher.Host.Basic
/-!
A host on top of an operating system. A process that was made is attended by a thread that waits
for its end; if there can be no such thread, the process is killed at once, and nothing of it is
left. -/
namespace Launcher

/-- What a launcher asks of the operating system. -/
structure Kernel (σ : Type) where
  /-- Makes a process that runs the launch, and gives its number. -/
  spawn : Launch → σ → Except OsError Nat × σ
  /-- Starts the thread that waits for the end of the process and records it. -/
  attend : Nat → σ → Except Errno Unit × σ
  /-- Waits for the end of a process that no thread attends. -/
  collect : Nat → σ → σ
  isRecorded : Nat → σ → Bool
  kill : Nat → Signal → σ → Option Errno × σ
  write : Stream → String → σ → σ
  watch : List Nat → Option Duration → σ → Except SetupError Unit × σ
  next : (s : Supervision) → σ → Option s.Awaited × σ

namespace Kernel

/-- Gets rid of a process that cannot be attended. -/
def discard (k : Kernel σ) (pid : Nat) (world : σ) : σ :=
  if ControlError.isValidPid pid then k.collect pid (k.kill pid .kill world).2 else world

/-- Starts a process together with the thread that waits for it. -/
def start (k : Kernel σ) (launch : Launch) (world : σ) : Except SpawnError Nat × σ :=
  match k.spawn launch world with
  | (.error cause, world) => (.error (.os launch.program.binary cause), world)
  | (.ok pid, world) =>
    match k.attend pid world with
    | (.ok (), world) => (.ok pid, world)
    | (.error cause, world) => (.error (.reaper pid cause), k.discard pid world)

def host (k : Kernel σ) : Host σ where
  start := k.start
  isRecorded := k.isRecorded
  kill := k.kill
  write := k.write
  watch := k.watch
  next := k.next

end Kernel
end Launcher

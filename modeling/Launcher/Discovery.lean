import Launcher.Registry
import Launcher.Path.Basic
/-!
The candidates that a host offers without any configuration: addresses to listen on, ports, and
input devices. -/
namespace Launcher

/-- What discovery finds out about a host. -/
structure HostFacts where
  /-- What the network interfaces report, in order; not all of it is internet addresses. -/
  interfaceAddresses : List (Option Address)
  /-- The names in a directory, in ascending order; none if there is no such directory. -/
  directoryNames : String → List String

namespace HostFacts

def deviceDirectory : String := "/dev/input/by-id"

def isLowerLetter (c : Char) : Bool := 'a' ≤ c && c ≤ 'z'

/-- Whether the name ends in `-event-` and at least one letter. -/
def isDeviceName (name : String) : Bool :=
  let letters := name.toList.reverse.takeWhile isLowerLetter
  let before := name.toList.reverse.dropWhile isLowerLetter
  !letters.isEmpty && "-tneve-".toList.isPrefixOf before

/-- The event devices in a directory, in order of their names. -/
def eventDevices (facts : HostFacts) (directory : String) : List String :=
  ((facts.directoryNames directory).filter isDeviceName).map (Path.joinText directory)

def leastPort : Int := 1000

def greatestPort : Int := 65535

def serverAddresses (facts : HostFacts) : Candidates :=
  .list ((Address.serverAddresses facts.interfaceAddresses).map .address)

def devices (facts : HostFacts) : Candidates :=
  .list ((eventDevices facts deviceDirectory).map .path)

end HostFacts

/-- The selectors that need no configuration. `facts` says what the world looks like now. -/
def Registry.builtin (facts : σ → HostFacts) : Registry σ :=
  ((Registry.empty.register "ip-address" (some "server") fun world =>
      ((facts world).serverAddresses, world)).register "ip-port" none fun world =>
      (.range HostFacts.leastPort HostFacts.greatestPort, world)).register
    "device-file" (some "input-evdev") fun world => ((facts world).devices, world)

end Launcher

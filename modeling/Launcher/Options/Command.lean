import Launcher.Duration
import Launcher.Options.Basic
import Launcher.Signal
/-!
The options and arguments of the launcher and of its commands. -/
namespace Launcher.Options

def helpForm : OptionForm := ⟨"help", some 'h', .help⟩

def versionForm : OptionForm := ⟨"version", some 'V', .version⟩

def jsonForm : OptionForm := ⟨"json", none, .flag⟩

def interactiveForm : OptionForm := ⟨"interactive", some 'i', .flag⟩

/-- What the launcher itself is given: the catalog file, and a command with its words. -/
structure MainOptions where
  catalog : Option String
  words : List String
  deriving DecidableEq, Repr

def mainGrammar : Grammar where
  options := [⟨"catalog", none, .valued⟩, helpForm, versionForm]
  tail := .verbatim
  required := 0
  fault _ value := if value.isEmpty then some .missingValue else none

def MainOptions.read (words : List String) : Except UsageError MainOptions :=
  (mainGrammar.read words).map fun g => ⟨g.value? "catalog", g.words⟩

structure ListOptions where
  ids : Bool
  deriving DecidableEq, Repr

def listGrammar : Grammar where
  options := [⟨"ids", some 'i', .flag⟩, helpForm]
  tail := .atMost 0
  required := 0
  fault _ _ := none

def ListOptions.read (words : List String) : Except UsageError ListOptions :=
  (listGrammar.read words).map fun g => ⟨g.has "ids"⟩

structure InfoOptions where
  program : String
  deriving DecidableEq, Repr

def infoGrammar : Grammar where
  options := [helpForm]
  tail := .atMost 1
  required := 1
  fault _ _ := none

def InfoOptions.read (words : List String) : Except UsageError InfoOptions :=
  (infoGrammar.read words).map fun g => ⟨g.words.headD ""⟩

structure ResolveOptions where
  json : Bool
  interactive : Bool
  chain : List String
  deriving DecidableEq, Repr

def resolveGrammar : Grammar where
  options := [jsonForm, interactiveForm, helpForm]
  tail := .verbatim
  required := 1
  fault _ _ := none

def ResolveOptions.read (words : List String) : Except UsageError ResolveOptions :=
  (resolveGrammar.read words).map fun g => ⟨g.has "json", g.has "interactive", g.words⟩

structure LaunchOptions where
  json : Bool
  interactive : Bool
  timeout : Option Duration
  /-- What is sent when the time is over. -/
  signal : Signal
  chain : List String
  deriving DecidableEq, Repr

/-- A timeout must be a duration and a signal must be one. -/
def launchFault (long value : String) : Option UsageError :=
  if long = "timeout" then
    match Duration.parse value with
    | .ok _ => none
    | .error _ => some .badValue
  else if long = "signal" then
    match Signal.parse value with
    | .ok _ => none
    | .error _ => some .badValue
  else none

def launchGrammar : Grammar where
  options :=
    [jsonForm, interactiveForm, ⟨"timeout", none, .valued⟩, ⟨"signal", none, .valued⟩, helpForm]
  tail := .verbatim
  required := 1
  fault := launchFault

def LaunchOptions.ofGiven (g : Given) : LaunchOptions where
  json := g.has "json"
  interactive := g.has "interactive"
  timeout := (g.value? "timeout").bind fun value => (Duration.parse value).toOption
  signal := ((g.value? "signal").bind fun value => (Signal.parse value).toOption).getD .term
  chain := g.words

def LaunchOptions.read (words : List String) : Except UsageError LaunchOptions :=
  (launchGrammar.read words).map LaunchOptions.ofGiven

end Launcher.Options

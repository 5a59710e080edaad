import Launcher.Environment
import Launcher.Text.Styled
/-!
The help text of the launcher, its version, and when texts are shown in colour. -/
namespace Launcher.Command

open Text

def versionText : String := "launchpad 0.1.0\n"

/-- The styles of the parts of the help text. -/
structure HelpStyles where
  title : String → String
  group : String → String
  command : String → String
  remark : String → String

def HelpStyles.ofPalette (p : Palette) : HelpStyles where
  title := p.paint (.boldIn .yellow)
  group := p.paint (.boldIn .green)
  command := p.paint (.ofColour .cyan)
  remark := p.paint (.ofEmphasis .dimmed)

def helpText (p : Palette) : String :=
  let s := HelpStyles.ofPalette p
  String.join
    [s.title "launchpad", " 0.1.0\n",
     "Resolves program arguments from a catalog and supervises the launched processes.\n\n",
     s.title "USAGE:", "\n",
     "  launchpad [--catalog <PATH>] ", s.command "<COMMAND>", " [ARGS...]\n\n",
     s.group "COMMANDS:", "\n",
     "  ", s.command "list", ", ", s.command "ls",
     " [--ids]                          List the programs in the catalog.\n",
     "  ", s.command "info",
     " <PROGRAM>                            Show modes, parameters and current candidates.\n",
     "  ", s.command "resolve",
     " [--json] [-i] <CHAIN>             Print the command lines a launch would run.\n",
     "  ", s.command "launch", ", ", s.command "run",
     " [--json] [-i] [--timeout SECS] [--signal SIG] <CHAIN>\n",
     "                                            Start every target and wait for all of them.\n\n",
     s.group "CHAIN:", "\n",
     "  <PROGRAM[:MODE]> [VALUES...] [+ <PROGRAM[:MODE]> [VALUES...]]...\n",
     "  ", s.remark "VALUES fill, in order, the parameters nothing else could decide.", "\n",
     "  ", s.remark "A later target is matched against the earlier launch of its matched mode.",
     "\n\n",
     s.group "OPTIONS:", "\n",
     "  --catalog <PATH>     Catalog file. Defaults to $LAUNCHPAD_CATALOG, then\n",
     "                       the launchpad directory under the user config directory.\n",
     "  -h, --help           Print help.\n",
     "  -V, --version        Print version.\n"]

/-- Output is never a terminal, so colours have to be forced, by a variable that is not zero. -/
def Palette.ofEnvironment (e : Environment) : Palette :=
  ⟨(e.get? "CLICOLOR_FORCE").any (· != "0")⟩

/-- Help is shown in colour where texts are, if the variable that forces colours says anything and
the one that refuses them does not. -/
def helpPalette (p : Palette) (e : Environment) : Palette :=
  ⟨p.colours && (e.nonEmpty? "CLICOLOR_FORCE").isSome && (e.nonEmpty? "NO_COLOR").isNone⟩

end Launcher.Command

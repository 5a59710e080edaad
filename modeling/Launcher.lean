import Launcher.Discovery
import Launcher.Host.Account
import Launcher.Machine.Bench
import Launcher.Main
import Launcher.Process.Interleaving
import Launcher.Shell.Reading
import Launcher.Proofs.Resolution.Assignment
import Launcher.Proofs.Process.Callbacks
import Launcher.Proofs.Process.Settling
import Launcher.Proofs.Command.DryRun
import Launcher.Proofs.Command.Matching
import Launcher.Proofs.Command.Stopping
import Launcher.Proofs.Command.Supervising
import Launcher.Proofs.Catalog.Omission
import Launcher.Proofs.Catalog.Consistency
import Launcher.Proofs.Catalog.Targets
import Launcher.Proofs.Command.Recording
import Launcher.Proofs.Shell.Quoting
import Launcher.Proofs.Catalog.Meaning
import Launcher.Proofs.Path.Anchoring
import Launcher.Proofs.Catalog.Relocation
import Launcher.Proofs.Toml.Distinct
import Launcher.Proofs.Document.KeyOrder
import Launcher.Proofs.Catalog.Scheduling
import Launcher.Proofs.Document.Written
import Launcher.Proofs.Catalog.Defaults
import Launcher.Proofs.Catalog.Checking
import Launcher.Proofs.Catalog.Building
import Launcher.Proofs.Command.Rounds
import Launcher.Proofs.Resolution.Reporting
import Launcher.Proofs.Catalog.Modes
import Launcher.Proofs.Resolution.Stages
import Launcher.Proofs.Resolution.Asking
import Launcher.Proofs.Resolution.Literals
import Launcher.Proofs.Resolution.Questions
import Launcher.Proofs.Resolution.Replaying
import Launcher.Proofs.Resolution.Repetition
import Launcher.Proofs.Catalog.Binaries
import Launcher.Proofs.Command.Abandoning
import Launcher.Proofs.Process.Reentrance
import Launcher.Proofs.Chain
import Launcher.Proofs.Registry
import Launcher.Proofs.Options.Words
import Launcher.Proofs.Path.Expansion
import Launcher.Proofs.Options.Command
import Launcher.Proofs.Address
import Launcher.Proofs.Signal
import Launcher.Proofs.Candidates

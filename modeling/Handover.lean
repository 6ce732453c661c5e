import Handover.CommandLine.Answer
import Handover.Main
import Handover.Process
import Handover.Session
import Handover.Settings.Load
import Handover.Text.Base64
import Handover.Yaml.Document
import Handover.Proofs.Respelling.Letters
import Handover.Proofs.Respelling.Walk
import Handover.Proofs.Respelling.Faithful
import Handover.Proofs.Respelling.Append
import Handover.Proofs.Run
import Handover.Proofs.Settings.Loading
import Handover.Proofs.Dispatcher
import Handover.Proofs.Delivery
import Handover.Proofs.Invocation
import Handover.Proofs.Settings.Sound
import Handover.Proofs.Settings.Unusable
import Handover.Proofs.Respelling.Renaming
import Handover.Proofs.Respelling.Stable
import Handover.Proofs.Respelling.Grammar
import Handover.Proofs.Verdict
import Handover.Proofs.Text.Json
import Handover.Proofs.Respelling.Warnings
import Handover.Proofs.Explanation
import Handover.Proofs.CommandLine
import Handover.Proofs.CommandLine.Direct
import Handover.Proofs.Supervision
import Handover.Proofs.Session
import Handover.Proofs.Respelling.Spelled
import Handover.Proofs.Respelling.Gathered
import Handover.Proofs.Respelling.Spread
import Handover.Proofs.Respelling.Prepare
import Handover.Proofs.ShortFlags
import Handover.Proofs.Text.Blank
import Handover.Proofs.Respelling.ConfigValue
import Handover.Proofs.HostName
import Handover.Proofs.Reports
import Handover.Proofs.Modes
import Handover.Proofs.Settings.Resolution
import Handover.Proofs.Respelling.Dumps
import Handover.Proofs.Levels
import Handover.Proofs.Text.ShellWord
import Handover.Proofs.StartRecord
import Handover.Proofs.CommandLine.Explained
import Handover.Proofs.Grid.Wrap
import Handover.Proofs.Grid.Picture
import Handover.Proofs.Listing
import Handover.Proofs.Respelling.Asking
import Handover.Proofs.Refusal

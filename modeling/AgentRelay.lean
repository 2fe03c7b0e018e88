import AgentRelay.Elf
import AgentRelay.FileTree
import AgentRelay.Host
import AgentRelay.Json.Quoted
import AgentRelay.Main
import AgentRelay.Program
import AgentRelay.Proofs.Launch.Preview
import AgentRelay.Proofs.Options.History
import AgentRelay.Proofs.Options.Merge
import AgentRelay.Proofs.Options.NormalForm
import AgentRelay.Proofs.Host.Interruption
import AgentRelay.Proofs.Launch.Steering
import AgentRelay.Proofs.Loader
import AgentRelay.Proofs.Transparency
import AgentRelay.Proofs.Plan.FixedPoint
import AgentRelay.Proofs.Plan.Home
import AgentRelay.Proofs.Selection.Offset
import AgentRelay.Proofs.Selection.Superclass
import AgentRelay.Proofs.Host.OptionBytes
import AgentRelay.Proofs.Config.Arrays
import AgentRelay.Proofs.Config.Formats
import AgentRelay.Proofs.Config.LineEnds
import AgentRelay.Proofs.Command.Formats
import AgentRelay.Proofs.CommandLine.RoundTrip
import AgentRelay.Proofs.Selection.Json
import AgentRelay.Proofs.Binary64.Text

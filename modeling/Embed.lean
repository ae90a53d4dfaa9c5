import Embed.Text
import Embed.Decimal
import Embed.Json.Printer
import Embed.Json.Fault
import Embed.Json.Numeral
import Embed.Json.Parser
import Embed.Message.Decoder
import Embed.Message.Command
import Embed.Config.Parser
import Embed.Recording
import Embed.Response
import Embed.Host.Run
import Embed.Proofs.Recording
import Embed.Proofs.WindowedSize
import Embed.Proofs.RequestedSize
import Embed.Proofs.CanvasSizes
import Embed.Proofs.SolidCanvas
import Embed.Proofs.Independence
import Embed.Proofs.Lifecycle
import Embed.Proofs.LoadOrder
import Embed.Proofs.MessageStream
import Embed.Proofs.Visibility
import Embed.Proofs.ProgressBar
import Embed.Proofs.FirstFailure
import Embed.Proofs.Page
import Embed.Proofs.Listeners
import Embed.Proofs.Signals
import Embed.Proofs.Attachment
import Embed.Proofs.Mounting
import Embed.Proofs.Agreement
import Embed.Proofs.Journal
import Embed.Proofs.Reentrance
import Embed.Proofs.Lockstep
import Embed.Proofs.Members
import Embed.Proofs.RefusedRequest
import Embed.Proofs.Decoding
import Embed.Proofs.Commands
import Embed.Proofs.Progression
import Embed.Proofs.StatusTicks
import Embed.Proofs.StatusGrammar
import Embed.Proofs.Meaning
import Embed.Proofs.Composition
import Embed.Proofs.Summaries
import Embed.Proofs.Isolation
import Embed.Proofs.Ticks

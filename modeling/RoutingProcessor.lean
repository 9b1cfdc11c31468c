import RoutingProcessor.Backend.Session
import RoutingProcessor.Config.OfJson
import RoutingProcessor.Config.Written
import RoutingProcessor.Failure.Outline
import RoutingProcessor.Main
import RoutingProcessor.Stream.Session
import RoutingProcessor.Proofs.Stream.Schedule
import RoutingProcessor.Proofs.Stream.Responses
import RoutingProcessor.Proofs.Stream.Abort
import RoutingProcessor.Proofs.Stream.Ending
import RoutingProcessor.Proofs.Stream.FailOpen
import RoutingProcessor.Proofs.Stream.Preferred
import RoutingProcessor.Proofs.Decision.Accounting
import RoutingProcessor.Proofs.Decision.Truncation
import RoutingProcessor.Proofs.Config.Endpoint
import RoutingProcessor.Proofs.Config.HeaderNames
import RoutingProcessor.Proofs.Config.Partial
import RoutingProcessor.Proofs.Config.Verdict
import RoutingProcessor.Proofs.Server.Lifecycle
import RoutingProcessor.Proofs.Shutdown.Delivery
import RoutingProcessor.Proofs.Backend.AcceptLoop
import RoutingProcessor.Proofs.Backend.Echo
import RoutingProcessor.Proofs.Backend.Query
import RoutingProcessor.Proofs.Text.Order
import RoutingProcessor.Proofs.Json.Print
import RoutingProcessor.Proofs.Files.Directory
import RoutingProcessor.Proofs.Server.Tasks
import RoutingProcessor.Proofs.Server.Listeners
import RoutingProcessor.Proofs.Server.Stop
import RoutingProcessor.Proofs.Server.Breakdown
import RoutingProcessor.Proofs.Server.Timeouts
import RoutingProcessor.Proofs.Server.Ready
import RoutingProcessor.Proofs.Shutdown.Token
import RoutingProcessor.Proofs.Failure.Chain
import RoutingProcessor.Proofs.Header.Response
import RoutingProcessor.Proofs.Header.Lookup

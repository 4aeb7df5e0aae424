import Aqap.Wire.NoPanic
import Aqap.Wire.RoundTrip
import Aqap.Wire.Smuggling
import Aqap.Agent.EarlyAck
import Aqap.Agent.Disposal
import Aqap.Agent.Decryption
import Aqap.Agent.Poison
import Aqap.Agent.Retry
import Aqap.Agent.Loops
import Aqap.Agent.Conservation
import Aqap.Wire.BodyLimit
import Aqap.Wire.Integrity
import Aqap.Agent.Correlation
import Aqap.Agent.Routing
import Aqap.Agent.Secrecy
import Aqap.Agent.Tracing
import Aqap.Async.Lts
import Aqap.Sdk.Consumer
import Aqap.Sdk.Failover
import Aqap.Sdk.Framing
import Aqap.Transport.InMemory
import Aqap.Transport.Kafka
import Aqap.Agent.Acknowledge
import Aqap.Agent.Delivery
import Aqap.Agent.Identity
import Aqap.Agent.Independence
import Aqap.Agent.Accounts
import Aqap.Agent.ExceptionSafety
import Aqap.Agent.Exactness
import Aqap.Agent.Redelivery
import Aqap.Agent.Monitors
import Aqap.Agent.Schedule
import Aqap.Agent.Window
import Aqap.Core.Grammar
import Aqap.Core.Hop
import Aqap.Core.Isolation
import Aqap.Core.Precedence
import Aqap.Kernel.Queries
import Aqap.Kernel.Router
import Aqap.Kernel.Schema
import Aqap.Plugin.Engine
import Aqap.Plugin.Scorer
import Aqap.Plugin.TraceCollector
import Aqap.Wire.Reencode
import Aqap.Transport.Balance
import Aqap.Agent.DlqIndex
import Aqap.Agent.Jobs
import Aqap.Agent.Keys
import Aqap.Agent.Report
import Aqap.Core.HotReload
import Aqap.Plugin.TraceExport
import Aqap.Agent.Startup
import Aqap.Kernel.Crypto
import Aqap.Kernel.Envelope
import Aqap.Sdk.Deliveries
import Aqap.Transport.RabbitMq
import Aqap.Transport.Yields
import Aqap.Wire.Bindings
import Aqap.Wire.Resign
import Aqap.Wire.Grammar

import PlachemMonitor.Auth.Canonical
import PlachemMonitor.Auth.Refusals
import PlachemMonitor.Documents.Register
import PlachemMonitor.Documents.Versions
import PlachemMonitor.Engine.DriftTrace
import PlachemMonitor.Engine.Duplicates
import PlachemMonitor.Engine.Harness
import PlachemMonitor.Engine.Ingress
import PlachemMonitor.Engine.Inheritance
import PlachemMonitor.Engine.Policy
import PlachemMonitor.Engine.Polling
import PlachemMonitor.Engine.Race
import PlachemMonitor.Engine.ReadOnly
import PlachemMonitor.FastGateway.Fabricated
import PlachemMonitor.FastGateway.Stops
import PlachemMonitor.FastGateway.Usable
import PlachemMonitor.JevLive.Aborts
import PlachemMonitor.JevLive.Confirmations
import PlachemMonitor.JevLive.Risk
import PlachemMonitor.JevLive.Runs
import PlachemMonitor.JevLive.Stalled
import PlachemMonitor.JevLive.Supervisor
import PlachemMonitor.JevLive.Tools
import PlachemMonitor.JevLive.Watchdog.Observe
import PlachemMonitor.OpenClaw.Crashes
import PlachemMonitor.Orchestration.Compiler
import PlachemMonitor.Orchestration.Dispatching
import PlachemMonitor.Orchestration.Inputs
import PlachemMonitor.Orchestration.Settling
import PlachemMonitor.Recovery.Chain
import PlachemMonitor.Recovery.Watchdog
import PlachemMonitor.Salvage.Controller
import PlachemMonitor.Spec.Paging
import PlachemMonitor.Telemetry.AiServer
import PlachemMonitor.Text.Base64
import PlachemMonitor.Text.Regex
import PlachemMonitor.WarRoom.Advisory
import PlachemMonitor.WarRoom.Bridge
import PlachemMonitor.WarRoom.Capture
import PlachemMonitor.WarRoom.DirectLane
import PlachemMonitor.WarRoom.Envelope
import PlachemMonitor.WarRoom.Generations
import PlachemMonitor.WarRoom.LiveRuns
import PlachemMonitor.WarRoom.Pass
import PlachemMonitor.WarRoom.QaAdmission
import PlachemMonitor.WarRoom.Recovered
import PlachemMonitor.WarRoom.Results
import PlachemMonitor.WarRoom.Retries
import PlachemMonitor.WarRoom.Revisions
import PlachemMonitor.WarRoom.Sessions
import PlachemMonitor.WarRoom.StopTimers
import PlachemMonitor.WarRoom.Supersession
import PlachemMonitor.WarRoom.Terminal
import PlachemMonitor.WarRoom.Timeline
import PlachemMonitor.WarRoom.Validation
import PlachemMonitor.WarRoom.Verdicts

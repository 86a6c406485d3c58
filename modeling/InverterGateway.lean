import InverterGateway.Theory.Runs
import InverterGateway.Theory.Table
import InverterGateway.Theory.Text
import InverterGateway.Theory.Binary64
import InverterGateway.Theory.Broadcast
import InverterGateway.Gateway.Json
import InverterGateway.Gateway.EnergyPath
import InverterGateway.Gateway.Telemetry
import InverterGateway.Gateway.Operations
import InverterGateway.Gateway.Commands
import InverterGateway.Gateway.History
import InverterGateway.Gateway.Events
import InverterGateway.Gateway.Metric
import InverterGateway.Gateway.Alarms
import InverterGateway.Gateway.Report
import InverterGateway.Gateway.Russian
import InverterGateway.Gateway.AllClear
import InverterGateway.Gateway.Whitelist
import InverterGateway.Rumqttc.Packet
import InverterGateway.Rumqttc.State
import InverterGateway.Rumqttc.EventLoop
import InverterGateway.Gateway.Bridge
import InverterGateway.Gateway.Connection
import InverterGateway.Gateway.Isolation
import InverterGateway.Gateway.Session
import InverterGateway.Gateway.Replay
import InverterGateway.Gateway.Delivery
import InverterGateway.Theory.Fields
import InverterGateway.Gateway.Sources
import InverterGateway.Gateway.SourceGrammar
import InverterGateway.Gateway.SourceRules
import InverterGateway.Gateway.EnergySources
import InverterGateway.Gateway.FromEnv
import InverterGateway.Gateway.Discard
import InverterGateway.Gateway.Http
import InverterGateway.Gateway.Coalesce
import InverterGateway.Gateway.Acknowledgement
import InverterGateway.Gateway.Resubscribe
import InverterGateway.Gateway.Reachability
import InverterGateway.Gateway.Facts
import InverterGateway.Gateway.Locales
import InverterGateway.Gateway.Brief
import InverterGateway.Theory.Bytes
import InverterGateway.Gateway.TlsPolicy
import InverterGateway.Gateway.Router
import InverterGateway.Theory.TopicFilter
import InverterGateway.Gateway.Tables
import InverterGateway.Gateway.Normalise
import InverterGateway.Gateway.ActiveAlarms
import InverterGateway.Gateway.NumberWords
import InverterGateway.Theory.Length
import InverterGateway.Gateway.RussianLength
import InverterGateway.Gateway.SpeechLength
import InverterGateway.Theory.Fallible
import InverterGateway.Theory.Overlay
import InverterGateway.Smoke.Layers
import InverterGateway.Smoke.FinalBinary
import InverterGateway.Theory.Trace
import InverterGateway.Smoke.Python
import InverterGateway.Smoke.Docker
import InverterGateway.Smoke.Runtime
import InverterGateway.Smoke.Cleanup
import InverterGateway.Smoke.Passed
import InverterGateway.Theory.Dialogue
import InverterGateway.Release.Plan
import InverterGateway.Release.Versions
import InverterGateway.Release.GitHub
import InverterGateway.Release.State
import InverterGateway.Release.Publish
import InverterGateway.Release.Ledger
import InverterGateway.Release.Clients
import InverterGateway.Release.Shelf
import InverterGateway.Release.Reservations
import InverterGateway.Release.Publication
import InverterGateway.Theory.Reader
import InverterGateway.Theory.Framing
import InverterGateway.Rumqttc.Wire
import InverterGateway.Rumqttc.RoundTrip
import InverterGateway.Rumqttc.Stream
import InverterGateway.Rumqttc.Checked
import InverterGateway.Gateway.InFlight
import InverterGateway.Theory.Guarded
import InverterGateway.Gateway.Startup
import InverterGateway.Gateway.Progress

import TimeAgent.Adapter.Message
import TimeAgent.Adapter.Snapshots
import TimeAgent.Agent.Main
import TimeAgent.Agent.Order
import TimeAgent.Agent.Queue
import TimeAgent.Agent.Resolver
import TimeAgent.Agent.Return
import TimeAgent.Agent.Stop
import TimeAgent.Collector.Complete
import TimeAgent.Collector.Normal
import TimeAgent.Collector.Range
import TimeAgent.Collector.Stream
import TimeAgent.Config.Overlay
import TimeAgent.Config.Services
import TimeAgent.Metrics.Alone
import TimeAgent.Metrics.Bounds
import TimeAgent.Metrics.Cut
import TimeAgent.Metrics.Network
import TimeAgent.Metrics.Zones
import TimeAgent.Topology.Fields
import TimeAgent.Topology.Responders
import TimeAgent.Topology.Rounding

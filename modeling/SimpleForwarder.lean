import SimpleForwarder.Lib.Postcondition
import SimpleForwarder.Lib.Environment
import SimpleForwarder.Lib.Deadlines
import SimpleForwarder.Lib.Machine
import SimpleForwarder.Util
import SimpleForwarder.Rules
import SimpleForwarder.Lib.HostPort
import SimpleForwarder.UpstreamAddress
import SimpleForwarder.Sockets
import SimpleForwarder.ProxyServer.Routing
import SimpleForwarder.ProxyServer.Handshake
import SimpleForwarder.ProxyServer.Course
import SimpleForwarder.Relay.Select
import SimpleForwarder.Transparency
import SimpleForwarder.HttpForwarding
import SimpleForwarder.SentColumn
import SimpleForwarder.ForwardedHead
import SimpleForwarder.UriTranslation
import SimpleForwarder.FinalReply
import SimpleForwarder.Agreement
import SimpleForwarder.Relay.Timing
import SimpleForwarder.Relay.Accounting
import SimpleForwarder.Lib.OrderedTable
import SimpleForwarder.Lib.Duplex
import SimpleForwarder.Tracker.System
import SimpleForwarder.Tracker.Order
import SimpleForwarder.Tracker.Counters
import SimpleForwarder.Server.System
import SimpleForwarder.Server.Lifecycle
import SimpleForwarder.Server.Bursts
import SimpleForwarder.Server.Eviction
import SimpleForwarder.ExeResolver.Freshness
import SimpleForwarder.ExeResolver.SocketTable
import SimpleForwarder.HotReload
import SimpleForwarder.Socks5Exchange
import SimpleForwarder.HeadFraming
import SimpleForwarder.HeadLines
import SimpleForwarder.ConnectHead
import SimpleForwarder.Socks4Framing
import SimpleForwarder.HeaderFiltering
import SimpleForwarder.DomainPatterns
import SimpleForwarder.Lib.RowView
import SimpleForwarder.Lib.Selection
import SimpleForwarder.TrafficWindow.System
import SimpleForwarder.TrafficWindow.Highlights
import SimpleForwarder.TrafficWindow.Mirror
import SimpleForwarder.TrafficWindow.RowDiff
import SimpleForwarder.TrafficWindow.Repaint
import SimpleForwarder.ExeResolver.Locks
import SimpleForwarder.ExeResolver.Capacity
import SimpleForwarder.Logger
import SimpleForwarder.Tray.MessageLoop
import SimpleForwarder.Tray.Autostart
import SimpleForwarder.Tray.StatsText
import SimpleForwarder.TrafficWindow.Visibility
import SimpleForwarder.Relay.Reclaim
import SimpleForwarder.Relay.Chain
import SimpleForwarder.HttpExchange
import SimpleForwarder.Socks5Refusal
import SimpleForwarder.Socks5Framing
import SimpleForwarder.ProxyServer.Buffering
import SimpleForwarder.ConnectTimeout
import SimpleForwarder.DnsPolicy
import SimpleForwarder.Cascade

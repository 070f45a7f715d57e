import LiosTunnel.Lib.PrefixTable
import LiosTunnel.Lib.KeyedStore
import LiosTunnel.Net.Addr
import LiosTunnel.Error
import LiosTunnel.Route.Command
import LiosTunnel.Route.Linux
import LiosTunnel.Route.MacOs
import LiosTunnel.Route.Kernel
import LiosTunnel.Route.Inverse
import LiosTunnel.Route.DefaultMode
import LiosTunnel.Route.Capture
import LiosTunnel.Route.Guard
import LiosTunnel.Route.ResolvConf
import LiosTunnel.Helper.Routes
import LiosTunnel.Helper.Coverage
import LiosTunnel.Lib.Channel
import LiosTunnel.Net.LocalStream
import LiosTunnel.Lib.BitField
import LiosTunnel.Net.Inspect
import LiosTunnel.Net.Headers
import LiosTunnel.Dns.Reply
import LiosTunnel.Lib.Timed
import LiosTunnel.Dns.OverTcp
import LiosTunnel.Stack.Flow
import LiosTunnel.Stack.Core
import LiosTunnel.Stack.Datagram
import LiosTunnel.Stack.Accounting
import LiosTunnel.Stack.Ingress
import LiosTunnel.Stack.Reference
import LiosTunnel.Stack.Flows
import LiosTunnel.Stack.Moves
import LiosTunnel.Stack.Pending
import LiosTunnel.Stack.Outbound
import LiosTunnel.Stack.Inbound
import LiosTunnel.Stack.Listeners
import LiosTunnel.Stack.Transport
import LiosTunnel.Stack.Clocks
import LiosTunnel.Engine.Proxy
import LiosTunnel.Engine.Handover
import LiosTunnel.Config.Profile
import LiosTunnel.Config.Texts
import LiosTunnel.Config.Files
import LiosTunnel.Config.Portable
import LiosTunnel.Dto.Profile
import LiosTunnel.Dto.Protocol
import LiosTunnel.Helper.Dispatch
import LiosTunnel.Helper.Serve
import LiosTunnel.Helper.Promises
import LiosTunnel.Lib.FirstUse
import LiosTunnel.Protocols.KnownHosts
import LiosTunnel.Protocols.Sessions
import LiosTunnel.Platform.Android
import LiosTunnel.App.HelperClient
import LiosTunnel.Protocols.Links
import LiosTunnel.Ffi.ExportLink
import LiosTunnel.Route.Duplicates
import LiosTunnel.Route.Family
import LiosTunnel.Lib.Semaphore
import LiosTunnel.Protocols.Flows
import LiosTunnel.Protocols.Probe
import LiosTunnel.Dns.OverTcp
import LiosTunnel.App.Slug
import LiosTunnel.App.OneConnection
import LiosTunnel.App.ProfileWriter
import LiosTunnel.App.Apart
import LiosTunnel.App.ProfileApi
import LiosTunnel.Helper.Listener
import LiosTunnel.Helper.SocketPath
import LiosTunnel.Helper.Fleet
import LiosTunnel.Engine.Queries
import LiosTunnel.App.ProfileEditor
import LiosTunnel.App.EditedProfile
import LiosTunnel.App.HeldPassword
import LiosTunnel.App.Requests
import LiosTunnel.Helper.Replies
import LiosTunnel.App.Desktop

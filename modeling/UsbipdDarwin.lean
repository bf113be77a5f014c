import UsbipdDarwin.Lts.Reachable
import UsbipdDarwin.Lts.Threads
import UsbipdDarwin.Lts.Lock
import UsbipdDarwin.Lts.History
import UsbipdDarwin.Lts.Maps
import UsbipdDarwin.Proto.Urb
import UsbipdDarwin.Host.EpLock
import UsbipdDarwin.Host.Capture
import UsbipdDarwin.Session.Frame
import UsbipdDarwin.Session.Endpoint
import UsbipdDarwin.Session.Table
import UsbipdDarwin.Session.Flags
import UsbipdDarwin.Session.Replies
import UsbipdDarwin.Session.Balance
import UsbipdDarwin.Session.Cancel
import UsbipdDarwin.Session.Permits
import UsbipdDarwin.Lts.Framing
import UsbipdDarwin.Session.Wire
import UsbipdDarwin.Session.Order
import UsbipdDarwin.Session.Unlink
import UsbipdDarwin.Session.Stale
import UsbipdDarwin.Daemon.Step
import UsbipdDarwin.Daemon.Move
import UsbipdDarwin.Daemon.Ownership
import UsbipdDarwin.Lts.Reader
import UsbipdDarwin.Session.Requests
import UsbipdDarwin.Host.Transfer
import UsbipdDarwin.Session.ReplyStream
import UsbipdDarwin.Daemon.Registry
import UsbipdDarwin.Daemon.Serve
import UsbipdDarwin.Daemon.Policy
import UsbipdDarwin.Daemon.OwnCaptures
import UsbipdDarwin.Daemon.Visibility
import UsbipdDarwin.Events.Hub
import UsbipdDarwin.Events.Watch
import UsbipdDarwin.Host.Cache
import UsbipdDarwin.Lts.Records
import UsbipdDarwin.Proto.Record
import UsbipdDarwin.Daemon.Devlist
import UsbipdDarwin.Daemon.Devid
import UsbipdDarwin.Session.Overflow
import UsbipdDarwin.Session.Isochronous
import UsbipdDarwin.Host.Move
import UsbipdDarwin.Host.Pool
import UsbipdDarwin.Host.Reconfigure
import UsbipdDarwin.Host.FailedRequest
import UsbipdDarwin.Host.FirstUse
import UsbipdDarwin.Proto.FixedStr
import UsbipdDarwin.Proto.Indexed
import UsbipdDarwin.Lts.Escape
import UsbipdDarwin.Sudoers.Render
import UsbipdDarwin.Sudoers.Command
import UsbipdDarwin.Sudoers.Group
import UsbipdDarwin.Host.Busid
import UsbipdDarwin.Host.Progress
import UsbipdDarwin.Lts.Ranking
import UsbipdDarwin.Session.Locks
import UsbipdDarwin.Session.Settle
import UsbipdDarwin.Daemon.Settle
import UsbipdDarwin.Cli.Allow
import UsbipdDarwin.Events.Live
import UsbipdDarwin.Host.Forward
import UsbipdDarwin.Host.IOKit
import UsbipdDarwin.Host.OnBus
import UsbipdDarwin.Session.Forward
import UsbipdDarwin.Cli.Listen
import UsbipdDarwin.Daemon.Connection
import UsbipdDarwin.Lts.Jobs
import UsbipdDarwin.Lts.Simulation
import UsbipdDarwin.Session.Service

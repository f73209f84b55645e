import Lookout.Timer.Session
import Lookout.Backoff.Session
import Lookout.Polling.Session
import Lookout.Shutdown
import Lookout.Config.Load
import Lookout.Backend.Site
import Lookout.Service.Session
import Lookout.Program.Control
import Lookout.Program.Daemon
import Lookout.Main
import Lookout.Proofs.Backoff.Promise
import Lookout.Proofs.Polling.Stop
import Lookout.Proofs.Polling.Order
import Lookout.Proofs.Polling.Session
import Lookout.Proofs.Polling.Pause
import Lookout.Proofs.Polling.Rhythm
import Lookout.Proofs.Polling.Window
import Lookout.Proofs.Polling.Leave
import Lookout.Proofs.Polling.Changes
import Lookout.Proofs.Polling.Apart
import Lookout.Proofs.Service.Session
import Lookout.Proofs.Config.Repair
import Lookout.Proofs.Polling.Board
import Lookout.Proofs.Polling.Fates
import Lookout.Proofs.Polling.Log
import Lookout.Proofs.Backend.Endpoint
import Lookout.Proofs.Backoff.Observers
import Lookout.Proofs.Polling.Load
import Lookout.Proofs.Polling.Rest
import Lookout.Proofs.Service.Settled
import Lookout.Proofs.Service.Requests
import Lookout.Proofs.Polling.Unread
import Lookout.Proofs.Service.Admission
import Lookout.Proofs.Backoff.Remaining
import Lookout.Proofs.Service.Remaining
import Lookout.Proofs.Program.Start
import Lookout.Proofs.Url.Plain
import Lookout.Proofs.Url.Seat
import Lookout.Proofs.Backend.Prefix
import Lookout.Proofs.Admin.Names
import Lookout.Proofs.Polling.Alone
import Lookout.Proofs.Service.Directory
import Lookout.Proofs.Service.Listing
import Lookout.Proofs.Timer.Single
import Lookout.Proofs.Timer.Firings
import Lookout.Proofs.Timer.Session
import Lookout.Proofs.Polling.Guards
import Lookout.Proofs.Polling.Waits
import Lookout.Proofs.Program.Settings
import Lookout.Proofs.Config.Servers
import Lookout.Proofs.Shutdown
import Lookout.Proofs.Json.ReadBack
import Lookout.Proofs.Json.Same
import Lookout.Proofs.Polling.Comparison
import Lookout.Proofs.Timer.Stall
import Lookout.Proofs.Polling.Stall
import Lookout.Proofs.Service.Live

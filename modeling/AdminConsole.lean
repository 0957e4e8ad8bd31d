import AdminConsole.Audit.Collector
import AdminConsole.Model.Sample
import AdminConsole.Server.Server
import AdminConsole.Proofs.Access.Tags
import AdminConsole.Proofs.Action.Edit
import AdminConsole.Proofs.Action.Effect
import AdminConsole.Proofs.Action.Frame
import AdminConsole.Proofs.Audit.Device
import AdminConsole.Proofs.Audit.Reports
import AdminConsole.Proofs.Audit.Window
import AdminConsole.Proofs.Console.Perform
import AdminConsole.Proofs.Calls.Floor
import AdminConsole.Proofs.Calls.Accounts
import AdminConsole.Proofs.Calls.Site
import AdminConsole.Proofs.Calls.Trace
import AdminConsole.Proofs.Page.Render
import AdminConsole.Proofs.Page.Clicks
import AdminConsole.Proofs.Page.Controls
import AdminConsole.Proofs.Page.Engagement
import AdminConsole.Proofs.Server.Routes
import AdminConsole.Proofs.Server.Handle
import AdminConsole.Proofs.Server.Layer
import AdminConsole.Proofs.Server.Denial
import AdminConsole.Proofs.Team.Owners
import AdminConsole.Proofs.Text.Identifier
import AdminConsole.Proofs.Trail.Standing
import AdminConsole.Proofs.Trail.Replay
import AdminConsole.Proofs.Trail.Lifecycle
import AdminConsole.Proofs.Trail.Coherence
import AdminConsole.Proofs.Trail.Becoming
import AdminConsole.Proofs.Trail.Deletion
import AdminConsole.Proofs.Trail.Balance
import AdminConsole.Proofs.Trail.History
import AdminConsole.Proofs.Trail.Idle
import AdminConsole.Proofs.Session.Live
import AdminConsole.Proofs.Session.Past
import AdminConsole.Proofs.Session.Lobby
import AdminConsole.Proofs.Session.Survival
import AdminConsole.Proofs.Sight.Alike
import AdminConsole.Proofs.Sight.Scope
import AdminConsole.Proofs.Sight.Secrecy
import AdminConsole.Proofs.Trail.Order
import AdminConsole.Proofs.Text.Trim
import AdminConsole.Proofs.Trail.Bounds
import AdminConsole.Proofs.Audit.Collector
import AdminConsole.Proofs.Server.Usable
import AdminConsole.Proofs.Time.Stamp
import AdminConsole.Proofs.Json.Reading
import AdminConsole.Proofs.Audit.Wire
import AdminConsole.Proofs.Audit.Retry
import AdminConsole.Proofs.Console.Independence
import AdminConsole.Proofs.Trail.Guarded
import AdminConsole.Proofs.Action.Merge
import AdminConsole.Proofs.Session.Lingering
import AdminConsole.Proofs.Page.Tally
import AdminConsole.Proofs.Server.Environment
import AdminConsole.Proofs.Session.Credential
import AdminConsole.Proofs.Server.SignIn
import AdminConsole.Proofs.Text.Pieces
import AdminConsole.Proofs.Server.Delays
import AdminConsole.Proofs.Net.Address
import AdminConsole.Proofs.Net.Printing
import AdminConsole.Proofs.Audit.Address

import Wayfinding.Command.Run
import Wayfinding.Main
import Wayfinding.Script.Session
import Wayfinding.Proofs.Path
import Wayfinding.Proofs.Traversal
import Wayfinding.Proofs.Route.Compiled
import Wayfinding.Proofs.Text.CaseFolding
import Wayfinding.Proofs.Route.Cut
import Wayfinding.Proofs.Route.Extraction
import Wayfinding.Proofs.Route.Reverse
import Wayfinding.Proofs.Router.Run
import Wayfinding.Proofs.Router.Snapshot
import Wayfinding.Proofs.Text.Spelling
import Wayfinding.Proofs.Router.Address
import Wayfinding.Proofs.Router.RegistryLog
import Wayfinding.Proofs.Router.Moment
import Wayfinding.Proofs.Router.Registrations
import Wayfinding.Proofs.Router.Order
import Wayfinding.Proofs.Router.AddressBar
import Wayfinding.Proofs.Router.Policies
import Wayfinding.Proofs.Router.Coverage
import Wayfinding.Proofs.Json.Grammar
import Wayfinding.Proofs.Json.Scan
import Wayfinding.Proofs.Json.Skip
import Wayfinding.Proofs.Json.Written
import Wayfinding.Proofs.Configuration.Settings
import Wayfinding.Proofs.Configuration.RoundTrip
import Wayfinding.Proofs.Command.Navigate
import Wayfinding.Proofs.Router.Refusal
import Wayfinding.Proofs.Route.Grammar
import Wayfinding.Proofs.Route.Access
import Wayfinding.Proofs.Router.Delivery
import Wayfinding.Proofs.Route.Respelling
import Wayfinding.Proofs.Number.Integer
import Wayfinding.Proofs.Number.Carry
import Wayfinding.Proofs.Number.Decimal
import Wayfinding.Proofs.Number.Equality
import Wayfinding.Proofs.Number.Printing
import Wayfinding.Proofs.Segment
import Wayfinding.Proofs.Number.Recasing
import Wayfinding.Proofs.Route.Recasing
import Wayfinding.Proofs.Route.Widening
import Wayfinding.Proofs.Router.Location
import Wayfinding.Proofs.Router.BaseUrl
import Wayfinding.Proofs.Router.Escaping
import Wayfinding.Proofs.Splitting
import Wayfinding.Proofs.Route.Integers

import ClientAccess.Application.History
import ClientAccess.Main
import ClientAccess.Store.Batch
import ClientAccess.Proofs.Location.Canonical
import ClientAccess.Proofs.Location.RoundTrip
import ClientAccess.Proofs.Route.Tree
import ClientAccess.Proofs.Navigation.Hops
import ClientAccess.Proofs.Navigation.Landing
import ClientAccess.Proofs.Navigation.WayBack
import ClientAccess.Proofs.History.Event
import ClientAccess.Proofs.History.Credential
import ClientAccess.Proofs.History.Place
import ClientAccess.Proofs.History.Notice
import ClientAccess.Proofs.Json.Reading
import ClientAccess.Proofs.Json.Whole
import ClientAccess.Proofs.Json.RoundTrip
import ClientAccess.Proofs.Json.Nesting
import ClientAccess.Proofs.Session.Profile
import ClientAccess.Proofs.Session.RoundTrip
import ClientAccess.Proofs.SignIn.ReadBack
import ClientAccess.Proofs.Store.Persistence
import ClientAccess.Proofs.Store.Interruption
import ClientAccess.Proofs.History.Agreement
import ClientAccess.Proofs.Route.Inheritance
import ClientAccess.Proofs.Navigation.ClosedPages
import ClientAccess.Proofs.Navigation.OwnRoutes
import ClientAccess.Proofs.Navigation.Influence
import ClientAccess.Proofs.History.Overlap
import ClientAccess.Proofs.History.Pair
import ClientAccess.Proofs.Navigation.Address
import ClientAccess.Proofs.Store.Repetition
import ClientAccess.Proofs.History.Frame
import ClientAccess.Proofs.CommandLine.Reports
import ClientAccess.Proofs.CommandLine.SessionFile
import ClientAccess.Proofs.Session.StepOrder
import ClientAccess.Proofs.Store.Rollback
import ClientAccess.Proofs.Json.Numbers
import ClientAccess.Proofs.Session.StoredProfile
import ClientAccess.Proofs.Answer.Outcome
import ClientAccess.Proofs.Navigation.Denial
import ClientAccess.Proofs.Answer.Body
import ClientAccess.Proofs.Store.Opening
import ClientAccess.Proofs.Settings.Acceptance
import ClientAccess.Proofs.Settings.BaseUrl
import ClientAccess.Proofs.Json.Outline
import ClientAccess.Proofs.Route.Flattening
import ClientAccess.Proofs.SignIn.Granted
import ClientAccess.Proofs.Location.Query
import ClientAccess.Proofs.Location.Segments
import ClientAccess.Proofs.Route.Roles

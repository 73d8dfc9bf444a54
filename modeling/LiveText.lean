import LiveText.Document.Outline
import LiveText.Proofs.Component.Data
import LiveText.Proofs.Document.InnerMarkup
import LiveText.Proofs.Document.RoundTrip
import LiveText.Proofs.Document.Selectors
import LiveText.Proofs.Json.RoundTrip
import LiveText.Proofs.Path.Order
import LiveText.Proofs.Session.Activities
import LiveText.Proofs.Session.Arena
import LiveText.Proofs.Session.Cascades
import LiveText.Proofs.Session.Collections
import LiveText.Proofs.Session.Construction
import LiveText.Proofs.Session.Containment
import LiveText.Proofs.Session.Depth
import LiveText.Proofs.Session.Dropping
import LiveText.Proofs.Session.Handles
import LiveText.Proofs.Session.Histories
import LiveText.Proofs.Session.Interference
import LiveText.Proofs.Session.Mounting
import LiveText.Proofs.Session.Notification
import LiveText.Proofs.Session.Restoration
import LiveText.Proofs.Session.Subscriptions
import LiveText.Proofs.Session.Tracking
import LiveText.Proofs.Session.Walks
import LiveText.Proofs.State.Order
import LiveText.Proofs.Template.Grammar
import LiveText.Proofs.Template.Printing
import LiveText.Session.Watch
import LiveText.Template.Lookup

import PagedCatalogue.Api.Application
import PagedCatalogue.Json.RoundTrip
import PagedCatalogue.Load.Report
import PagedCatalogue.Main
import PagedCatalogue.Proofs.Window.Bounds
import PagedCatalogue.Proofs.Window.ItemRange
import PagedCatalogue.Proofs.Window.Render
import PagedCatalogue.Proofs.Window.Advertised
import PagedCatalogue.Proofs.Window.LastPosition
import PagedCatalogue.Proofs.Negotiation.Parameters
import PagedCatalogue.Proofs.Negotiation.Range
import PagedCatalogue.Proofs.Negotiation.Ending
import PagedCatalogue.Proofs.Negotiation.Reachable
import PagedCatalogue.Proofs.Negotiation.Acceptance
import PagedCatalogue.Proofs.Negotiation.EntryPoints
import PagedCatalogue.Proofs.Negotiation.Refusal
import PagedCatalogue.Proofs.Negotiation.Run
import PagedCatalogue.Proofs.Negotiation.Retry
import PagedCatalogue.Proofs.Negotiation.RoundTrip
import PagedCatalogue.Proofs.Negotiation.Record
import PagedCatalogue.Proofs.Negotiation.Wording
import PagedCatalogue.Proofs.Negotiation.Carriers
import PagedCatalogue.Proofs.Negotiation.Encoding
import PagedCatalogue.Proofs.Negotiation.Escaping
import PagedCatalogue.Proofs.Catalogue.Page
import PagedCatalogue.Proofs.Catalogue.Walk
import PagedCatalogue.Proofs.Api.Listing
import PagedCatalogue.Proofs.Api.Growth
import PagedCatalogue.Proofs.Api.Identifier
import PagedCatalogue.Proofs.Api.Quoting
import PagedCatalogue.Proofs.Api.Validation
import PagedCatalogue.Proofs.Api.Complaint
import PagedCatalogue.Proofs.Load.Posts
import PagedCatalogue.Proofs.Load.Pages
import PagedCatalogue.Proofs.Load.Run

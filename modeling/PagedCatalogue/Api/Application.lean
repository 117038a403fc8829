import PagedCatalogue.Api.Body
import PagedCatalogue.Api.Location
import PagedCatalogue.Api.Response
import PagedCatalogue.Api.Route
import PagedCatalogue.Negotiation.Carriers

namespace PagedCatalogue.Api

open Text

/-- A request. The path is percent-encoded, the query string has one character an octet, and an
absent body is empty. -/
structure Request extends Carriers where
  method : String
  path : String
  body : List UInt8
  arrival : Arrival
  server : Server := {}
deriving DecidableEq, Repr

namespace Application

def create (c : Catalogue) (r : Request) : Catalogue × Response :=
  match r.server.readDraft (r.header? "content-type") r.body with
  | .ok draft => ((c.add draft).1, { status := 201, payload := .item (c.add draft).2 })
  | .error (.invalid problems) => (c, .invalid problems)
  | .error .unreadable => (c, .detail 400 "There was an error parsing the body")

def serve (c : Catalogue) (outcome : Outcome) : Response :=
  match outcome.failure with
  | some failure => { Response.failed failure with events := outcome.events }
  | none =>
    match c.page outcome.window with
    | .error failure => { Response.failed failure with events := outcome.events }
    | .ok page =>
      { status := 200, payload := .items page.items, contentRange := some page.contentRange,
        events := outcome.events ++ [page.event] }

def lookUp (c : Catalogue) (segment : List Char) : Response :=
  match Integer.read (String.ofList segment) with
  | .error fault => .invalid [{ defect := .ofInteger fault, place := .identifier }]
  | .ok id =>
    match c.item id with
    | .ok item => { status := 200, payload := .item item }
    | .error failure => .failed failure

def notAllowed (method : String) : Response :=
  { Response.detail 405 "Method Not Allowed" with allow := some method }

def document (r : Request) (d : Document) : Response :=
  if r.method = "GET" ∨ r.method = "HEAD" then
    { status := 200, payload := .document d (r.server.documents.text d) }
  else notAllowed "GET, HEAD"

def unrouted (r : Request) (path : List Char) : Response :=
  match Route.redirect? path with
  | some target =>
    match location r.arrival (r.header? "host") target r.query with
    | .ok location => { status := 307, payload := .empty, location := some location }
    | .error failure => .failed failure
  | none => .detail 404 "Not Found"

def answer (limits : PageLimits) (c : Catalogue) (r : Request) : Catalogue × Response :=
  let path := Percent.decode r.path.toList
  match Route.ofPath? path with
  | some .collection =>
    if r.method = "POST" then create c r
    else if r.method = "GET" then (c, serve c (r.negotiate limits))
    else (c, notAllowed "POST")
  | some (.member segment) =>
    if r.method = "GET" then (c, lookUp c segment) else (c, notAllowed "GET")
  | some (.document d) => (c, document r d)
  | none => (c, unrouted r path)

def answers (limits : PageLimits) (c : Catalogue) : List Request → Catalogue × List Response
  | [] => (c, [])
  | r :: rs =>
    let (c, response) := answer limits c r
    let (c, responses) := answers limits c rs
    (c, response :: responses)

end Application

end PagedCatalogue.Api

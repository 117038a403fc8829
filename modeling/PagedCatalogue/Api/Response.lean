import PagedCatalogue.Api.Route
import PagedCatalogue.Catalogue.Page
import PagedCatalogue.Json.Reader
import PagedCatalogue.Json.Writer
import PagedCatalogue.Problem

namespace PagedCatalogue.Api

inductive Payload
  | empty
  | plain (text : String)
  | detail (text : String)
  | problems (ps : List Problem)
  | item (i : Item)
  | items (is : List Item)
  | document (d : Document) (text : String)
deriving DecidableEq, Repr

structure Response where
  status : Nat
  payload : Payload
  allow : Option String := none
  contentRange : Option String := none
  location : Option String := none
  raised : Option Failure := none
  events : List Event := []
deriving DecidableEq, Repr

def itemJson (createdAt : String) (item : Item) : Json :=
  .object [("id", .ofInt item.id), ("name", .string item.name),
    ("description", .ofString? item.description), ("created_at", .string createdAt)]

def placeJson : Place → Json
  | .identifier => .array [.string "path", .string "item_id"]
  | .body => .array [.string "body"]
  | .bodyAt position => .array [.string "body", .ofInt position]
  | .bodyField name => .array [.string "body", .string name]

def problemJson (problem : Problem) : Json :=
  .object [("type", .string problem.defect.tag), ("loc", placeJson problem.place),
    ("msg", .string problem.defect.message)]

def detailJson (detail : Json) : Json := .object [("detail", detail)]

def Payload.json? (createdAt : String) : Payload → Option Json
  | .empty => none
  | .plain _ => none
  | .detail text => some (detailJson (.string text))
  | .problems ps => some (detailJson (.array (ps.map problemJson)))
  | .item i => some (itemJson createdAt i)
  | .items is => some (.array (is.map (itemJson createdAt)))
  | .document .schema text => (Json.read text.length text).toOption
  | .document _ _ => none

def Payload.contentType? : Payload → Option String
  | .empty => none
  | .plain _ => some "text/plain; charset=utf-8"
  | .document .schema _ => some "application/json"
  | .document _ _ => some "text/html; charset=utf-8"
  | _ => some "application/json"

def Payload.body (createdAt : String) (payload : Payload) : String :=
  match payload with
  | .plain text => text
  | .document _ text => text
  | _ => ((payload.json? createdAt).map Json.text).getD ""

inductive Complaint
  | badRequest
  | notFound
deriving DecidableEq, Repr

def Complaint.status : Complaint → Nat
  | .badRequest => 400
  | .notFound => 404

namespace Response

def detail (status : Nat) (text : String) : Response where
  status := status
  payload := .detail text

def complaint (kind : Complaint) (text : String) : Response := detail kind.status text

def failed : Failure → Response
  | .refused refusal => complaint .badRequest refusal.message
  | .notFound id => complaint .notFound (Failure.notFound id).message
  | failure => { status := 500, payload := .plain "Internal Server Error", raised := some failure }

def invalid (problems : List Problem) : Response :=
  match hindranceOf problems with
  | none => { status := 422, payload := .problems problems }
  | some hindrance => failed hindrance.failure

end Response

end PagedCatalogue.Api

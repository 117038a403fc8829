import PagedCatalogue.Api.Server
import PagedCatalogue.Catalogue.Basic
import PagedCatalogue.Json.Number
import PagedCatalogue.Json.Reader
import PagedCatalogue.Problem
import PagedCatalogue.Text.Query

namespace PagedCatalogue.Api

open Text

def maxName : Nat := 255

def maxDescription : Nat := 10000

def nameOf : Option Json → Except Defect String
  | none => .error .missing
  | some (.string s) =>
    match text? s with
    | none => .error .notUnicode
    | some s =>
      if s.length = 0 then .error .emptyText
      else if maxName < s.length then .error (.longText maxName)
      else .ok s
  | some _ => .error .notText

def descriptionOf : Option Json → Except Defect (Option String)
  | none => .ok none
  | some .null => .ok none
  | some (.string s) =>
    match text? s with
    | none => .error .notUnicode
    | some s =>
      if maxDescription < s.length then .error (.longText maxDescription) else .ok (some s)
  | some _ => .error .notText

def hindranceTo (server : Server) (v : Json) : Option Hindrance :=
  if server.echo < v.height then some .tooDeep
  else if !v.isFinite then some .notFinite
  else if !v.isUnbroken then some .notEncodable
  else none

/-- The problem of a member, if it has one. In place of a missing member the object is quoted. -/
def problemsOf {α : Type} (server : Server) (members : List (List Point × Json)) (name : String) :
    Except Defect α → List Problem
  | .ok _ => []
  | .error defect =>
    [⟨defect, .bodyField name,
      hindranceTo server ((Json.lookup? members name).getD (.object members))⟩]

def Server.objection (server : Server) : Json → Defect
  | .null => if server.nullMissing then .missing else .notObject
  | _ => .notObject

def draftOf (server : Server) : Json → Except (List Problem) Draft
  | .object members =>
    match nameOf (Json.lookup? members "name"),
      descriptionOf (Json.lookup? members "description") with
    | .ok name, .ok description => .ok ⟨name, description⟩
    | name, description =>
      .error (problemsOf server members "name" name ++
        problemsOf server members "description" description)
  | v => .error [⟨server.objection v, .body, hindranceTo server v⟩]

def mediaType (contentType : String) : List Char :=
  (trim isBlank (Query.cut ';' contentType.toList).1).map Char.toLower

def isJsonType (contentType : String) : Bool :=
  let (kind, subtype) := Query.cut '/' (mediaType contentType)
  kind == "application".toList && !subtype.contains '/' &&
    (subtype == "json".toList || "+json".toList.isSuffixOf subtype)

def Server.countsAsJson (server : Server) (contentType : Option String) : Bool :=
  match contentType.filter (!·.isEmpty) with
  | none => server.untyped
  | some contentType => isJsonType contentType

inductive BodyFault
  | invalid (problems : List Problem)
  | unreadable
deriving DecidableEq, Repr

def readJson (depth : Nat) (body : List UInt8) : Except BodyFault Json :=
  match Json.received (body.map (·.toNat)) with
  | none => .error .unreadable
  | some ps =>
    match Json.read depth ps with
    | .ok v => .ok v
    | .error (.malformed position) =>
      .error (.invalid [{ defect := .malformed, place := .bodyAt position }])
    | .error _ => .error .unreadable

def foreignBody (body : List UInt8) : Problem :=
  ⟨.notObject, .body, (Utf8.fault? (body.map (·.toNat))).map .notText⟩

def Server.readDraft (server : Server) (contentType : Option String) (body : List UInt8) :
    Except BodyFault Draft :=
  if body.isEmpty then .error (.invalid [{ defect := .missing, place := .body }])
  else if server.countsAsJson contentType then do
    match draftOf server (← readJson server.depth body) with
    | .ok draft => .ok draft
    | .error problems => .error (.invalid problems)
  else .error (.invalid [foreignBody body])

end PagedCatalogue.Api

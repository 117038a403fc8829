import PagedCatalogue.Text.Query

/-!
# Routes

A segment of a path below the collection is one or more characters other than `/`. A path that ends
in slashes and is a route without them leads there, and a single line break behind the path of the
collection or of a document does not count.
-/

namespace PagedCatalogue.Api

open Text

inductive Document
  | schema | explorer | authorization | reference
deriving DecidableEq, Repr

inductive Route
  | collection
  | member (segment : List Char)
  | document (d : Document)
deriving DecidableEq, Repr

def Document.ofPath? : List Char → Option Document
  | path =>
    if path = "/openapi.json".toList then some .schema
    else if path = "/docs".toList then some .explorer
    else if path = "/docs/oauth2-redirect".toList then some .authorization
    else if path = "/redoc".toList then some .reference
    else none

namespace Route

def base : List Char := "/api/v1/items".toList

def dropBreak (path : List Char) : List Char :=
  if path.getLast? == some '\n' then path.dropLast else path

def ofPath? (path : List Char) : Option Route :=
  match after? base path with
  | some [] => some .collection
  | some ['\n'] => some .collection
  | some ('/' :: segment) =>
    if segment.isEmpty || segment.contains '/' then none else some (.member segment)
  | some _ => none
  | none => (Document.ofPath? (dropBreak path)).map .document

def dropSlashes (path : List Char) : List Char := (path.reverse.dropWhile (· == '/')).reverse

def redirect? (path : List Char) : Option (List Char) :=
  if path.getLast? == some '/' && (ofPath? (dropSlashes path)).isSome then
    some (dropSlashes path)
  else none

end Route

end PagedCatalogue.Api

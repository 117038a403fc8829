import PagedCatalogue.Api.Route

namespace PagedCatalogue.Api

structure Documents where
  schema : String := ""
  explorer : String := ""
  authorization : String := ""
  reference : String := ""
deriving DecidableEq, Repr

def Documents.text (ds : Documents) : Document → String
  | .schema => ds.schema
  | .explorer => ds.explorer
  | .authorization => ds.authorization
  | .reference => ds.reference

/-- What is up to the server at which a request arrives: whether a body whose content type is absent
or empty counts as JSON, whether one of `null` is a missing one, how deep a body that is read and a
value that is quoted may be nested, and the documents. -/
structure Server where
  -- Both were so in older releases of the framework.
  untyped : Bool := false
  nullMissing : Bool := false
  -- An interpreter's stack of 1000 frames, less those that are taken when a body is read, about
  -- fifty, and a few more when a value is quoted.
  depth : Nat := 950
  echo : Nat := 940
  documents : Documents := {}
deriving DecidableEq, Repr

end PagedCatalogue.Api

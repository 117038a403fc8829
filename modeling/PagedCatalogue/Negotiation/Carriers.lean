import PagedCatalogue.Negotiation.Outcome
import PagedCatalogue.Settings
import PagedCatalogue.Text.Query

namespace PagedCatalogue

open Text

structure Carriers where
  query : String
  headers : List (String × String)
deriving DecidableEq, Repr

namespace Carriers

def header? (carriers : Carriers) (name : String) : Option String :=
  (carriers.headers.find? (sameName ·.1 name)).map (·.2)

def value? (carriers : Carriers) (name : String) : Option String :=
  match heard (Query.value? carriers.query name) with
  | some s => some s
  | none => (carriers.header? name).map fun s => String.ofList (Percent.decode s.toList)

def source (carriers : Carriers) : Source := fun signal => carriers.value? signal.name

end Carriers

def Outcome.atMost (maximum : Int) (outcome : Outcome) : Outcome :=
  if outcome.failure.isNone && decide (maximum < outcome.window.size) then
    { outcome with
      failure := some (.refused (.limitAboveMaximum outcome.window.size maximum)) }
  else outcome

def Carriers.negotiate (limits : PageLimits) (carriers : Carriers) : Outcome :=
  (Negotiation.fromDefault carriers.source (some (.integer limits.usual))).atMost limits.most

end PagedCatalogue

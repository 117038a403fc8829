import Mathlib.Algebra.Group.Int.Defs
import PagedCatalogue.Load.Client
import PagedCatalogue.Proofs.Api.Body
import PagedCatalogue.Proofs.Catalogue.Walk

namespace PagedCatalogue

open Text

namespace Load

open Api

variable {target : Target} {c : Catalogue} {tally : Tally} {code n position : Nat}
  {positions : List Nat}

/-! ## Tallies -/

def Tally.single (code n : Nat) : Tally := if n = 0 then [] else [(code, n)]

variable {draft : Draft} {description : String}

def usualAddress : Address := ⟨"http", "localhost", some 8000, "/api/v1/items", ""⟩

theorem routed_of_usual (method : String) (headers : List (String × String)) (body : String) :
    Route.ofPath? (Percent.decode (requestTo usualAddress method headers body).path.toList) =
      some .collection :=
  (by decide : Route.ofPath? (Percent.decode "/api/v1/items".toList) = some .collection)

end Load

end PagedCatalogue

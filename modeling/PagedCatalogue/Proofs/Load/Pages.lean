import PagedCatalogue.Proofs.Api.Listing
import PagedCatalogue.Proofs.Api.LookUp
import PagedCatalogue.Proofs.Load.Posts
import PagedCatalogue.Proofs.Window.Render

namespace PagedCatalogue.Load

open Text Api Negotiation ItemRange

variable {target : Target} {limits : PageLimits} {c : Catalogue} {first last pageSize : Int}

def asking (first last : Int) : Request :=
  requestTo usualAddress "GET" [("range", request first last)] ""

theorem fetch_eq (reached : target.address = some usualAddress)
    (written : isWritable first = true) (written' : isWritable last = true) :
    fetch target c first last =
      .ofResponse (Application.serve c ((asking first last).negotiate target.limits)) := by
  have answered : Application.answer target.limits c (asking first last) =
      (c, Application.serve c ((asking first last).negotiate target.limits)) :=
    answer_of_listing rfl (routed_of_usual ..)
  rw [asking] at answered
  simp only [fetch, reached, written, written', Bool.and_self, if_true, answered]
  rfl

end PagedCatalogue.Load

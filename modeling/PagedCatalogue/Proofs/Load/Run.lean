import Mathlib.Algebra.Order.Floor.Div
import PagedCatalogue.Load.Report
import PagedCatalogue.Proofs.Load.Pages

namespace PagedCatalogue.Load

open Text Api

variable {target : Target} {limits : PageLimits} {plan : Plan} {c : Catalogue} {pageSize : Int}
  {total k m : Nat}

/-! ## Pages -/

end PagedCatalogue.Load

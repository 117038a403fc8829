import PagedCatalogue.Negotiation.Carriers
import PagedCatalogue.Proofs.Negotiation.EntryPoints

namespace PagedCatalogue

open Text ItemRange Negotiation

variable {source : Source} {outcome : Outcome} {w : Window} {maximum n m : Int}

namespace Negotiation

/-! ## What a request asks for -/

end Negotiation

namespace Outcome

end Outcome

/-! ## Both together -/

namespace Carriers

variable {limits : PageLimits} {carriers : Carriers}

end Carriers

end PagedCatalogue

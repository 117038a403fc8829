import PagedCatalogue.Api.Application
import PagedCatalogue.Proofs.Catalogue.Page
import PagedCatalogue.Proofs.Negotiation.Maximum
import PagedCatalogue.Proofs.Text.Integer
import PagedCatalogue.Settings

namespace PagedCatalogue.Api

open Text Negotiation

variable {limits : PageLimits} {c : Catalogue} {r : Request} {outcome : Outcome}

/-! ## Settings -/

theorem length_digits_of_setting {env : List (String × String)} {name : String} {usual n : Int}
    (short : (Decimal.digits usual.natAbs).length ≤ Decimal.maxDigits)
    (taken : Settings.integer env name usual = .ok n) :
    (Decimal.digits n.natAbs).length ≤ Decimal.maxDigits := by
  unfold Settings.integer at taken
  split at taken
  · cases taken
    exact short
  · split at taken
    · rename_i read
      cases taken
      exact Integer.length_digits_of_read read
    · cases taken

theorem length_digits_of_environment {env : List (String × String)} {settings : Settings}
    (taken : Settings.ofEnvironment env = .ok settings) :
    (Decimal.digits settings.limits.usual.natAbs).length ≤ Decimal.maxDigits ∧
      (Decimal.digits settings.limits.most.natAbs).length ≤ Decimal.maxDigits := by
  unfold Settings.ofEnvironment at taken
  dsimp only at taken
  split at taken
  · rename_i usual most
    cases taken
    exact ⟨length_digits_of_setting (by decide) usual, length_digits_of_setting (by decide) most⟩
  · cases taken

/-! ## Responses -/

theorem answer_of_listing (get : r.method = "GET")
    (routed : Route.ofPath? (Percent.decode r.path.toList) = some .collection) :
    Application.answer limits c r = (c, Application.serve c (r.negotiate limits)) := by
  simp only [Application.answer, routed, get, show ("GET" = "POST") = False by decide, if_false,
    if_true]

def Request.reading (path query : String) : Request where
  query := query
  headers := []
  method := "GET"
  path := path
  body := []
  arrival := ⟨"http", "testserver", some 80⟩

end PagedCatalogue.Api

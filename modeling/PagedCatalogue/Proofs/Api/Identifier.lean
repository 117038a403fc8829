import Mathlib.Algebra.Group.Int.Defs
import PagedCatalogue.Proofs.Api.Growth

namespace PagedCatalogue

variable {c : Catalogue} {id : Int} {item : Item}

namespace Catalogue

theorem fits_iff {n : Int} : fits n = true ↔ -2 ^ 63 ≤ n ∧ n < 2 ^ 63 := by
  simp only [fits, Bool.and_eq_true, decide_eq_true_eq]
  omega

theorem get?_eq_some (found : c.get? id = some item) : item ∈ c.items ∧ item.id = id := by
  rw [get?_eq] at found
  split at found
  · have id_eq := id_of_getElem?_items found
    exact ⟨List.mem_of_getElem? found, by omega⟩
  · cases found

theorem get?_eq_none (missing : c.get? id = none) (stored : item ∈ c.items) : item.id ≠ id := by
  rintro rfl
  obtain ⟨position, found⟩ := List.mem_iff_getElem?.1 stored
  have id_eq := id_of_getElem?_items found
  rw [get?_eq, if_pos (by omega), show (item.id : Int).toNat - 1 = position by omega, found]
    at missing
  cases missing

end Catalogue

namespace Api

open Text

variable {limits : PageLimits} {r : Request} {segment : List Char} {response : Response}

inductive Tells (c : Catalogue) (id : Int) (response : Response) : Prop
  | present {item : Item} (stored : item ∈ c.items) (named : item.id = id)
      (status : response.status = 200) (raised : response.raised = none)
      (shown : Shows response item)
  | absent (missing : ∀ item ∈ c.items, item.id ≠ id) (status : response.status = 404)
      (raised : response.raised = none)
      (detail : response.payload =
        .detail ("Элемент item_id=" ++ Decimal.text id ++ " не найден."))

theorem Tells.status (h : Tells c id response) : response.status = 200 ∨ response.status = 404 := by
  cases h with
  | present _ _ status => exact Or.inl status
  | absent _ status => exact Or.inr status

theorem tells_of_fits (read : Integer.read (String.ofList segment) = .ok id)
    (fitting : Catalogue.fits id = true) : Tells c id (Application.lookUp c segment) := by
  rw [lookUp_of_fits read fitting]
  cases found : c.get? id with
  | some item =>
    obtain ⟨stored, named⟩ := Catalogue.get?_eq_some found
    exact .present stored named rfl rfl (shows_of_payload rfl)
  | none => exact .absent (fun _ => Catalogue.get?_eq_none found) rfl rfl rfl

theorem not_tells_of_wide (read : Integer.read (String.ofList segment) = .ok id)
    (wide : Catalogue.fits id = false) : ¬Tells c id (Application.lookUp c segment) := by
  rw [lookUp_of_wide read wide]
  intro tells
  rcases tells.status with status | status <;> cases status

theorem lookUp_answered_iff_fits (get : r.method = "GET")
    (routed : Route.ofPath? (Percent.decode r.path.toList) = some (.member segment))
    (read : Integer.read (String.ofList segment) = .ok id) :
    ∃ response, Application.answer limits c r = (c, response) ∧
      (Tells c id response ↔ -2 ^ 63 ≤ id ∧ id < 2 ^ 63) ∧
      (¬(-2 ^ 63 ≤ id ∧ id < 2 ^ 63) →
        response.status = 500 ∧ response.raised = some .tooWide) := by
  refine ⟨_, answer_of_member get routed, ?_⟩
  rw [← Catalogue.fits_iff]
  cases fitting : Catalogue.fits id with
  | true => exact ⟨iff_of_true (tells_of_fits read fitting) rfl, absurd rfl⟩
  | false =>
    refine ⟨iff_of_false (not_tells_of_wide read fitting) nofun, ?_⟩
    rw [lookUp_of_wide read fitting]
    exact fun _ => ⟨rfl, rfl⟩

-- White space around the number, a sign, an underscore and a fraction of zeros do not count.
theorem lookUp_answered_spelled :
    (Request.reading "/api/v1/items/%20+0_2.00" "").method = "GET" ∧
    Route.ofPath? (Percent.decode
      (Request.reading "/api/v1/items/%20+0_2.00" "").path.toList) =
        some (.member " +0_2.00".toList) ∧
    Integer.read (String.ofList " +0_2.00".toList) = .ok 2 ∧
    ∃ response, Application.answer ⟨25, 1000⟩ (.ofDrafts [⟨"a", none⟩, ⟨"b", none⟩])
        (.reading "/api/v1/items/%20+0_2.00" "") =
          (.ofDrafts [⟨"a", none⟩, ⟨"b", none⟩], response) ∧
      Tells (.ofDrafts [⟨"a", none⟩, ⟨"b", none⟩]) 2 response := by
  have routed : Route.ofPath? (Percent.decode
      (Request.reading "/api/v1/items/%20+0_2.00" "").path.toList) =
        some (.member " +0_2.00".toList) := by
    decide
  have read : Integer.read (String.ofList " +0_2.00".toList) = .ok 2 := by decide
  obtain ⟨response, answered, tells, -⟩ :=
    @lookUp_answered_iff_fits (.ofDrafts [⟨"a", none⟩, ⟨"b", none⟩]) 2 ⟨25, 1000⟩
      (.reading "/api/v1/items/%20+0_2.00" "") " +0_2.00".toList rfl routed read
  exact ⟨rfl, routed, read, response, answered, tells.2 (by decide)⟩

theorem wide_identifier_not_answered :
    ¬Tells (.ofDrafts []) 9223372036854775808
      (Application.answer ⟨25, 1000⟩ (.ofDrafts [])
        (.reading "/api/v1/items/9223372036854775808" "")).2 := by
  have routed : Route.ofPath? (Percent.decode
      (Request.reading "/api/v1/items/9223372036854775808" "").path.toList) =
        some (.member "9223372036854775808".toList) := by
    decide
  have read : Integer.read (String.ofList "9223372036854775808".toList) =
      .ok 9223372036854775808 := by
    decide
  rw [answer_of_member rfl routed]
  exact not_tells_of_wide read (by decide)

end Api

end PagedCatalogue

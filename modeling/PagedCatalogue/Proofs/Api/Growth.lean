import Mathlib.Data.List.Forall2
import PagedCatalogue.Proofs.Api.Body
import PagedCatalogue.Proofs.Api.Listing
import PagedCatalogue.Proofs.Api.LookUp

namespace PagedCatalogue.Api

open Text

variable {limits : PageLimits} {c : Catalogue} {r : Request} {rs : List Request}
  {response : Response} {item : Item} {items items' : List Item}

/-! ## Responses -/

/-- The body of a response is an item, whenever it was created. -/
structure Shows (response : Response) (item : Item) : Prop where
  id : ∀ createdAt, (response.payload.json? createdAt).bind (·.member? "id") =
    some (.ofInt item.id)
  name : ∀ createdAt, (response.payload.json? createdAt).bind (·.member? "name") =
    some (.string item.name)
  description : ∀ createdAt, (response.payload.json? createdAt).bind (·.member? "description") =
    some (.ofString? item.description)

theorem shows_of_payload (payload : response.payload = .item item) : Shows response item := by
  constructor <;> intro createdAt <;> rw [payload] <;> rfl

def quietStatuses : List Nat := [200, 307, 400, 404, 405, 422, 500]

theorem status_failed (failure : Failure) : (Response.failed failure).status ∈ quietStatuses := by
  have error : 500 ∈ quietStatuses := by decide
  cases failure with
  | refused refusal => exact (by decide : 400 ∈ quietStatuses)
  | notFound id => exact (by decide : 404 ∈ quietStatuses)
  | fault f => exact error
  | tooWide => exact error
  | tooDeep => exact error
  | notFinite => exact error
  | notEncodable => exact error
  | notText f => exact error
  | unknownScheme scheme => exact error

theorem status_invalid (problems : List Problem) :
    (Response.invalid problems).status ∈ quietStatuses := by
  unfold Response.invalid
  split
  · exact (by decide : 422 ∈ quietStatuses)
  · exact status_failed _

theorem status_document (r : Request) (d : Document) :
    (Application.document r d).status ∈ quietStatuses := by
  unfold Application.document
  split
  · exact (by decide : 200 ∈ quietStatuses)
  · exact (by decide : 405 ∈ quietStatuses)

theorem status_serve (c : Catalogue) (outcome : Outcome) :
    (Application.serve c outcome).status ∈ quietStatuses := by
  unfold Application.serve
  split
  · exact status_failed _
  · split
    · exact status_failed _
    · exact (by decide : 200 ∈ quietStatuses)

theorem status_lookUp (c : Catalogue) (segment : List Char) :
    (Application.lookUp c segment).status ∈ quietStatuses := by
  unfold Application.lookUp
  split
  · exact status_invalid _
  · split
    · exact (by decide : 200 ∈ quietStatuses)
    · exact status_failed _

theorem status_unrouted (r : Request) (path : List Char) :
    (Application.unrouted r path).status ∈ quietStatuses := by
  unfold Application.unrouted
  split
  · split
    · exact (by decide : 307 ∈ quietStatuses)
    · exact status_failed _
  · exact (by decide : 404 ∈ quietStatuses)

theorem status_notAllowed (method : String) :
    (Application.notAllowed method).status ∈ quietStatuses :=
  (by decide : 405 ∈ quietStatuses)

/-! ## One request -/

/-- What a request and its response do to a list of items. -/
inductive Extends (r : Request) (response : Response) (items : List Item) : List Item → Prop
  | created {v : Json} {draft : Draft} (status : response.status = 201)
      (posted : readJson r.server.depth r.body = .ok v) (holds : Holds v draft)
      (shown : Shows response ⟨draft, items.length + 1⟩) :
      Extends r response items (items ++ [⟨draft, items.length + 1⟩])
  | unchanged (status : response.status ∈ quietStatuses) : Extends r response items items

theorem Extends.step (h : Extends r response items items') :
    (∃ item, response.status = 201 ∧ Shows response item ∧ items' = items ++ [item]) ∨
      response.status ≠ 201 ∧ items' = items := by
  cases h with
  | created status _ _ shown => exact Or.inl ⟨_, status, shown, rfl⟩
  | unchanged status =>
    refine Or.inr ⟨?_, rfl⟩
    intro created
    rw [created] at status
    revert status
    decide

theorem create_extends (c : Catalogue) (r : Request) :
    Extends r (Application.create c r).2 c.items (Application.create c r).1.items := by
  unfold Application.create
  split
  · rename_i draft taken
    obtain ⟨-, -, v, posted, holds, -⟩ := readDraft_eq_ok.1 taken
    have added : (c.add draft).2 = ⟨draft, c.items.length + 1⟩ := by
      rw [Catalogue.length_items]
      rfl
    simp only [Catalogue.items_add, added]
    exact .created rfl posted holds (shows_of_payload rfl)
  · exact .unchanged (status_invalid _)
  · exact .unchanged (by decide : 400 ∈ quietStatuses)

theorem answer_extends (limits : PageLimits) (c : Catalogue) (r : Request) :
    Extends r (Application.answer limits c r).2 c.items
      (Application.answer limits c r).1.items := by
  unfold Application.answer
  dsimp only
  split
  · split
    · exact create_extends c r
    · split
      · exact .unchanged (status_serve c _)
      · exact .unchanged (status_notAllowed _)
  · split
    · exact .unchanged (status_lookUp c _)
    · exact .unchanged (status_notAllowed _)
  · exact .unchanged (status_document r _)
  · exact .unchanged (status_unrouted r _)

/-! ## Several requests -/

def Application.after (limits : PageLimits) (c : Catalogue) (rs : List Request) : Catalogue :=
  (answers limits c rs).1

theorem length_answers (limits : PageLimits) (c : Catalogue) (rs : List Request) :
    (Application.answers limits c rs).2.length = rs.length := by
  induction rs generalizing c with
  | nil => rfl
  | cons r rs ih => exact congrArg (· + 1) (ih (Application.answer limits c r).1)

theorem answers_extend {i : Nat} (asked : rs[i]? = some r) :
    ∃ response, (Application.answers limits c rs).2[i]? = some response ∧
      Extends r response (Application.after limits c (rs.take i)).items
        (Application.after limits c (rs.take (i + 1))).items := by
  induction rs generalizing c i with
  | nil => cases asked
  | cons first rs ih =>
    cases i with
    | zero =>
      cases asked
      exact ⟨_, rfl, answer_extends limits c r⟩
    | succ i => exact ih asked

theorem answers_created (limits : PageLimits) (c : Catalogue) (rs : List Request) :
    ∃ created, (Application.after limits c rs).items = c.items ++ created ∧
      List.Forall₂ Shows ((Application.answers limits c rs).2.filter (·.status == 201))
        created := by
  induction rs generalizing c with
  | nil => exact ⟨[], (List.append_nil _).symm, .nil⟩
  | cons r rs ih =>
    obtain ⟨created, items_eq, shown⟩ := ih (Application.answer limits c r).1
    have responses_eq : (Application.answers limits c (r :: rs)).2 =
        (Application.answer limits c r).2 ::
          (Application.answers limits (Application.answer limits c r).1 rs).2 := rfl
    have after_eq : Application.after limits c (r :: rs) =
        Application.after limits (Application.answer limits c r).1 rs := rfl
    rw [responses_eq, after_eq, items_eq]
    -- What the first response shows, if it shows an item, stands in front of all later ones.
    rcases (answer_extends limits c r).step with ⟨item, status, shows, grown⟩ | ⟨status, same⟩
    · refine ⟨item :: created, by simp [grown], ?_⟩
      rw [List.filter_cons_of_pos (by simp [status])]
      exact .cons shows shown
    · refine ⟨created, by rw [same], ?_⟩
      rwa [List.filter_cons_of_neg (by simp [status])]

/-! ## Reading -/

theorem reading_answered {id : Int} (fitting : Catalogue.fits id = true) (get : r.method = "GET")
    (path : r.path = memberPath id) :
    ∃ response, Application.answer limits c r = (c, response) ∧
      (1 ≤ id → id ≤ c.size → ∃ item, c.items[id.toNat - 1]? = some item ∧ item.id = id ∧
        response.status = 200 ∧ Shows response item) ∧
      (¬(1 ≤ id ∧ id ≤ c.size) → response.status = 404) := by
  refine ⟨_, answer_of_reading get path, ?_, ?_⟩
  · intro low high
    have inside : id.toNat - 1 < c.items.length := by
      rw [Catalogue.length_items]
      omega
    have found := List.getElem?_eq_getElem inside
    have id_eq := Catalogue.id_of_getElem?_items found
    rw [lookUp_write fitting, Catalogue.get?_eq, if_pos low, found]
    exact ⟨_, rfl, by omega, rfl, shows_of_payload rfl⟩
  · intro outside
    have missing : c.get? id = none := by
      rw [Catalogue.get?_eq]
      split
      · refine List.getElem?_eq_none ?_
        rw [Catalogue.length_items]
        omega
      · rfl
    rw [lookUp_write fitting, missing]
    rfl

theorem catalogue_append_only (limits : PageLimits) (c : Catalogue) (rs : List Request) :
    (Application.answers limits c rs).2.length = rs.length ∧
    (∃ created, (Application.after limits c rs).items = c.items ++ created ∧
      (Application.after limits c rs).items.map (·.id) =
        List.range' 1 (c.size + created.length) ∧
      List.Forall₂ Shows ((Application.answers limits c rs).2.filter (·.status == 201)) created) ∧
    (∀ i r, rs[i]? = some r →
      ∃ response, (Application.answers limits c rs).2[i]? = some response ∧
        Extends r response (Application.after limits c (rs.take i)).items
          (Application.after limits c (rs.take (i + 1))).items) ∧
    ∀ i id (r : Request), Catalogue.fits id = true → r.method = "GET" → r.path = memberPath id →
      let now := Application.after limits c (rs.take i)
      ∃ response, Application.answer limits now r = (now, response) ∧
        (1 ≤ id → id ≤ now.size → ∃ item, now.items[id.toNat - 1]? = some item ∧ item.id = id ∧
          response.status = 200 ∧ Shows response item) ∧
        (¬(1 ≤ id ∧ id ≤ now.size) → response.status = 404) := by
  refine ⟨length_answers limits c rs, ?_, fun i r => answers_extend,
    fun i id r => reading_answered⟩
  obtain ⟨created, items_eq, shown⟩ := answers_created limits c rs
  refine ⟨created, items_eq, ?_, shown⟩
  rw [Catalogue.ids_items, ← Catalogue.length_items, items_eq, List.length_append,
    Catalogue.length_items]

def Request.posting (body : String) : Request :=
  { Request.reading "/api/v1/items" "" with
    method := "POST"
    headers := [("content-type", "application/json")]
    body := Utf8.octets body }

-- A member that is no part of a draft is passed over.
theorem catalogue_append_only_posted :
    Application.after ⟨25, 1000⟩ (.ofDrafts [⟨"a", none⟩])
      [.posting "\x7b\"name\": \"b\", \"other\": 1\x7d"] =
        .ofDrafts [⟨"a", none⟩, ⟨"b", none⟩] ∧
    ∃ response, Application.answer ⟨25, 1000⟩ (.ofDrafts [⟨"a", none⟩, ⟨"b", none⟩])
        (.reading (memberPath 2) "") = (.ofDrafts [⟨"a", none⟩, ⟨"b", none⟩], response) ∧
      response.status = 200 ∧ Shows response ⟨⟨"b", none⟩, 2⟩ := by
  have grown : Application.after ⟨25, 1000⟩ (.ofDrafts [⟨"a", none⟩])
      [.posting "\x7b\"name\": \"b\", \"other\": 1\x7d"] =
        .ofDrafts [⟨"a", none⟩, ⟨"b", none⟩] := by
    decide
  obtain ⟨-, -, -, read⟩ := catalogue_append_only ⟨25, 1000⟩ (.ofDrafts [⟨"a", none⟩])
    [.posting "\x7b\"name\": \"b\", \"other\": 1\x7d"]
  obtain ⟨response, answered, present, -⟩ :=
    read 1 2 (.reading (memberPath 2) "") (by decide) rfl rfl
  rw [List.take_of_length_le (by decide), grown] at answered present
  obtain ⟨item, found, -, status, shows⟩ := present (by decide) (by decide)
  cases found
  exact ⟨grown, response, answered, status, shows⟩

end PagedCatalogue.Api

import PagedCatalogue.Proofs.Api.Growth
import PagedCatalogue.Proofs.Api.Quoting

namespace PagedCatalogue.Api

open Text

variable {limits : PageLimits} {c after : Catalogue} {r : Request} {response : Response} {v : Json}
  {members : List (List Point × Json)} {problems : List Problem} {server : Server}

inductive Reported (fits : Prop) (loc : List String) : List Problem → Prop
  | nothing (fit : fits) : Reported fits loc []
  | once {problem : Problem} (unfit : ¬fits)
      (located : (problemJson problem).member? "loc" =
        some (.array (loc.map fun part => .string part))) :
      Reported fits loc [problem]

/-- The problems of a value: the value itself if it is no object, else its fields in order. -/
inductive Faults : Json → List Problem → Prop
  | noObject {v : Json} {problem : Problem} (other : ∀ members, v ≠ .object members)
      (located : (problemJson problem).member? "loc" = some (.array [.string "body"])) :
      Faults v [problem]
  | fields {members : List (List Point × Json)} {names descriptions : List Problem}
      (name : Reported (NameFits (Json.lookup? members "name")) ["body", "name"] names)
      (description : Reported (DescriptionFits (Json.lookup? members "description"))
        ["body", "description"] descriptions) :
      Faults (.object members) (names ++ descriptions)

/-- A value is taken as it is, or refused for what is wrong with it. -/
inductive Validated (c : Catalogue) (v : Json) : Catalogue → Response → Prop
  | taken {after : Catalogue} {response : Response} {draft : Draft} (acceptable : Acceptable v)
      (holds : Holds v draft) (status : response.status = 201)
      (added : after.items = c.items ++ [⟨draft, c.items.length + 1⟩])
      (shown : Shows response ⟨draft, c.items.length + 1⟩) : Validated c v after response
  | refused {response : Response} {problems : List Problem} (unacceptable : ¬Acceptable v)
      (status : response.status = 422) (reported : response.payload = .problems problems)
      (faults : Faults v problems) : Validated c v c response

/-! ## Refusals -/

theorem reported_problemsOf {α : Type} {fits unicode : Prop} {name : String}
    {reading : Except Defect α} (taken_iff : fits ∧ unicode ↔ ∃ a, reading = .ok a)
    (told : ¬(fits ∧ unicode) → unicode) :
    Reported fits ["body", name] (problemsOf server members name reading) := by
  cases reading with
  | ok a => exact .nothing (taken_iff.2 ⟨a, rfl⟩).1
  | error defect =>
    have refused : ¬(fits ∧ unicode) := fun taken => nomatch taken_iff.1 taken
    exact .once (fun fit => refused ⟨fit, told refused⟩) rfl

-- A string with half of a pair cannot be quoted, so what is quoted is refused for what it lacks.
theorem Quotable.name (quotable : Quotable server v)
    (refused : ¬(NameFits (v.member? "name") ∧ IsUnicode (v.member? "name"))) :
    IsUnicode (v.member? "name") :=
  isUnicode_of_writable fun quoted found => quotable quoted (.name found (found ▸ refused))

theorem Quotable.description (quotable : Quotable server v)
    (refused : ¬(DescriptionFits (v.member? "description") ∧
      IsUnicode (v.member? "description"))) :
    IsUnicode (v.member? "description") :=
  isUnicode_of_writable fun quoted found => quotable quoted (.description found (found ▸ refused))

theorem faults_of_refused (refused : draftOf server v = .error problems)
    (quotable : Quotable server v) : Faults v problems := by
  rcases refused_cases refused with ⟨members, rfl, rfl⟩ | ⟨other, rfl⟩
  · exact .fields (reported_problemsOf nameFits_iff quotable.name)
      (reported_problemsOf descriptionFits_iff quotable.description)
  · exact .noObject other rfl

theorem not_storable_of_refused (refused : draftOf server v = .error problems) :
    ¬Storable v := by
  intro storable
  obtain ⟨draft, held⟩ := storable_iff.1 storable
  rw [(draftOf_eq_ok server).2 held] at refused
  cases refused

theorem Quotable.unacceptable (quotable : Quotable server v)
    (refused : draftOf server v = .error problems) : ¬Acceptable v := by
  intro acceptable
  refine not_storable_of_refused refused ⟨acceptable, ?_, ?_⟩
  · refine Classical.byContradiction fun broken => broken (quotable.name ?_)
    exact fun taken => broken taken.2
  · refine Classical.byContradiction fun broken => broken (quotable.description ?_)
    exact fun taken => broken taken.2

-- What is taken has both of its members in order, so a refusal would quote nothing.
theorem Storable.quotable (storable : Storable v) : Quotable server v := by
  obtain ⟨⟨name, description⟩, nameUnicode, descriptionUnicode⟩ := storable
  intro quoted quotes
  cases quotes with
  | name found unfit =>
    rw [found] at name nameUnicode
    exact absurd ⟨name, nameUnicode⟩ unfit
  | whole missing =>
    rw [missing] at name
    cases name
  | description found unfit =>
    rw [found] at description descriptionUnicode
    exact absurd ⟨description, descriptionUnicode⟩ unfit

/-! ## Answers -/

theorem readDraft_eq {contentType : Option String} {body : List UInt8}
    (json : server.countsAsJson contentType = true)
    (read : ∀ problems, readJson server.depth body ≠ .error (.invalid problems)) :
    server.readDraft contentType body =
      (readJson server.depth body).bind fun v => (draftOf server v).mapError .invalid := by
  rw [Server.readDraft, isEmpty_of_readJson read, json]
  cases readJson server.depth body with
  | error fault => rfl
  | ok v =>
    simp only [bind, Except.bind]
    cases draftOf server v <;> rfl

theorem create_of_refused
    (drafted : r.server.readDraft (r.header? "content-type") r.body = .error (.invalid problems)) :
    Application.create c r = (c, .invalid problems) := by
  simp only [Application.create, drafted]

theorem create_of_unreadable
    (drafted : r.server.readDraft (r.header? "content-type") r.body = .error .unreadable) :
    Application.create c r = (c, .detail 400 "There was an error parsing the body") := by
  simp only [Application.create, drafted]

theorem validated_of_held {draft : Draft} (holds : Holds v draft) (inSize : draft.InSize) :
    Validated c v (c.add draft).1 { status := 201, payload := .item (c.add draft).2 } := by
  have item : (c.add draft).2 = ⟨draft, c.items.length + 1⟩ := by
    rw [Catalogue.length_items]
    rfl
  refine .taken ((storable_iff.2 ⟨draft, holds, inSize⟩).acceptable) holds rfl ?_ ?_
  · rw [Catalogue.items_add, item]
  · rw [← item]
    exact shows_of_payload rfl

theorem Validated.status (h : Validated c v after response) :
    Acceptable v ∧ response.status = 201 ∨ ¬Acceptable v ∧ response.status = 422 := by
  cases h with
  | taken acceptable _ status => exact Or.inl ⟨acceptable, status⟩
  | refused unacceptable status => exact Or.inr ⟨unacceptable, status⟩

theorem status_failure (hindrance : Hindrance) :
    (Response.failed hindrance.failure).status = 500 ∧
      (Response.failed hindrance.failure).raised = some hindrance.failure := by
  cases hindrance <;> exact ⟨rfl, rfl⟩

theorem status_invalid_ne (problems : List Problem) : (Response.invalid problems).status ≠ 201 := by
  intro created
  have quiet := status_invalid problems
  rw [created] at quiet
  revert quiet
  decide

theorem validated_iff_of_refused (refused : draftOf server v = .error problems) :
    (Validated c v c (.invalid problems) ↔ Quotable server v) ∧
      (¬Quotable server v → ∃ hindrance, Hinders server v hindrance ∧
        (Response.invalid problems).status = 500 ∧
        (Response.invalid problems).raised = some hindrance.failure) := by
  rcases hindranceOf_of_refused refused with ⟨free, quotable⟩ | ⟨hindrance, hindered, hinders⟩
  · have invalid_eq : Response.invalid problems =
        { status := 422, payload := .problems problems } := by
      rw [Response.invalid, free]
    rw [invalid_eq]
    exact ⟨iff_of_true (.refused (quotable.unacceptable refused) rfl rfl
      (faults_of_refused refused quotable)) quotable, fun unquotable => absurd quotable unquotable⟩
  · have invalid_eq : Response.invalid problems = .failed hindrance.failure := by
      rw [Response.invalid, hindered]
    obtain ⟨status, raised⟩ := status_failure hindrance
    rw [invalid_eq]
    refine ⟨iff_of_false ?_ hinders.not_quotable, fun _ => ⟨hindrance, hinders, status, raised⟩⟩
    intro validated
    rcases validated.status with ⟨-, created⟩ | ⟨-, told⟩
    · rw [status] at created
      cases created
    · rw [status] at told
      cases told

theorem posts_validated_iff (limits : PageLimits) (c : Catalogue) {r : Request}
    (post : r.method = "POST")
    (routed : Route.ofPath? (Percent.decode r.path.toList) = some .collection)
    (json : r.server.countsAsJson (r.header? "content-type") = true) :
    (∀ v, readJson r.server.depth r.body = .ok v →
      let answer := Application.answer limits c r
      (answer.2.status = 201 ↔ Storable v) ∧
      (Validated c v answer.1 answer.2 ↔ Quotable r.server v) ∧
      (¬Quotable r.server v → answer.1 = c ∧ ∃ hindrance,
        Hinders r.server v hindrance ∧ answer.2.status = 500 ∧
          answer.2.raised = some hindrance.failure)) ∧
    ∀ v, v.WellFormed → r.body = Utf8.octets v.text →
      (Json.obstacle r.server.depth v = none → readJson r.server.depth r.body = .ok v) ∧
      (Json.obstacle r.server.depth v ≠ none → Application.answer limits c r =
        (c, .detail 400 "There was an error parsing the body")) := by
  rw [answer_of_posting post routed]
  constructor
  -- What is refused is told to the client, unless the response would quote what it cannot write.
  · intro v read
    have drafted := readDraft_eq json (by rw [read]; nofun)
    rw [read, Except.bind] at drafted
    cases draft_eq : draftOf r.server v with
    | ok draft =>
      obtain ⟨holds, inSize⟩ := (draftOf_eq_ok r.server).1 draft_eq
      have storable := storable_iff.2 ⟨draft, holds, inSize⟩
      rw [draft_eq] at drafted
      rw [create_of_draft drafted]
      exact ⟨iff_of_true rfl storable,
        iff_of_true (validated_of_held holds inSize) storable.quotable,
        fun unquotable => absurd storable.quotable unquotable⟩
    | error problems =>
      rw [draft_eq] at drafted
      rw [create_of_refused drafted]
      obtain ⟨validated_iff, hindered⟩ := validated_iff_of_refused (c := c) draft_eq
      exact ⟨iff_of_false (status_invalid_ne problems) (not_storable_of_refused draft_eq),
        validated_iff, fun unquotable => ⟨rfl, hindered unquotable⟩⟩
  · intro v wellFormed body
    have read := readJson_text wellFormed r.server.depth
    rw [← body] at read
    constructor
    · intro free
      rw [read, free]
      rfl
    · intro kept
      rw [if_neg (by rwa [Option.isNone_iff_eq_none])] at read
      have drafted := readDraft_eq json (by rw [read]; nofun)
      rw [read, Except.bind] at drafted
      exact create_of_unreadable drafted

theorem posts_validated_iff_two_faults :
    let v := Json.object [("name", .string ""), ("description", .bool true)]
    let r := Request.posting v.text
    r.method = "POST" ∧
    Route.ofPath? (Percent.decode r.path.toList) = some .collection ∧
    r.server.countsAsJson (r.header? "content-type") = true ∧
    v.WellFormed ∧ Json.obstacle r.server.depth v = none ∧ ¬Acceptable v ∧
    Quotable r.server v ∧
    Validated (.ofDrafts []) v (Application.answer ⟨25, 1000⟩ (.ofDrafts []) r).1
      (Application.answer ⟨25, 1000⟩ (.ofDrafts []) r).2 := by
  intro v r
  have routed : Route.ofPath? (Percent.decode r.path.toList) = some .collection := by decide
  have wellFormed : v.WellFormed := by
    constructor <;> rintro member (_ | ⟨_, _ | ⟨_, ⟨⟩⟩⟩)
    · exact Json.apart_points "name".toList
    · exact Json.apart_points "description".toList
    · exact .string .nil
    · exact .bool true
  have unacceptable : ¬Acceptable v := by
    rintro ⟨-, described⟩
    cases described
  have quotable : Quotable r.server v := by
    intro quoted quotes
    cases quotes with
    | name found unfit => cases found; exact ⟨by decide, rfl, rfl⟩
    | whole missing => cases missing
    | description found unfit => cases found; exact ⟨by decide, rfl, rfl⟩
  obtain ⟨validated, texts⟩ := posts_validated_iff ⟨25, 1000⟩ (.ofDrafts []) (r := r) rfl routed rfl
  obtain ⟨read, -⟩ := texts v wellFormed rfl
  exact ⟨rfl, routed, rfl, wellFormed, rfl, unacceptable, quotable,
    (validated v (read rfl)).2.1.2 quotable⟩

-- Half of a pair is a string of one code point, and can neither be stored nor quoted.
example : Application.answer ⟨25, 1000⟩ (.ofDrafts [])
    (.posting "\x7b\"name\":\"\\ud800\"\x7d") = (.ofDrafts [], .failed .notEncodable) := by
  decide +kernel

theorem infinite_name_not_validated :
    let r := Request.posting "\x7b\"name\":1e400\x7d"
    readJson r.server.depth r.body = .ok (.object [("name", .number "1e400")]) ∧
    ¬Validated (.ofDrafts []) (.object [("name", .number "1e400")])
      (Application.answer ⟨25, 1000⟩ (.ofDrafts []) r).1
      (Application.answer ⟨25, 1000⟩ (.ofDrafts []) r).2 := by
  intro r
  have status : (Application.answer ⟨25, 1000⟩ (.ofDrafts []) r).2.status = 500 := by
    decide +kernel
  refine ⟨rfl, ?_⟩
  intro validated
  rcases validated.status with ⟨-, created⟩ | ⟨-, refused⟩
  · rw [status] at created
    cases created
  · rw [status] at refused
    cases refused

end PagedCatalogue.Api

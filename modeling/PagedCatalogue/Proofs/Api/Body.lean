import PagedCatalogue.Api.Application
import PagedCatalogue.Proofs.Json.Octets

namespace PagedCatalogue

structure Draft.InSize (draft : Draft) : Prop where
  named : 0 < draft.name.length
  name : draft.name.length ≤ Api.maxName
  description : ∀ s ∈ draft.description, s.length ≤ Api.maxDescription

namespace Api

open Text

variable {v : Json} {draft : Draft}

inductive Describes : Option Json → Option String → Prop
  | absent : Describes none none
  | null : Describes (some .null) none
  | text (s : String) : Describes (some (.string s)) (some s)

structure Holds (v : Json) (draft : Draft) : Prop where
  name : v.member? "name" = some (.string draft.name)
  description : Describes (v.member? "description") draft.description

/-! ## Members -/

theorem nameOf_eq_ok {member : Option Json} {name : String} :
    nameOf member = .ok name ↔
      member = some (.string name) ∧ 0 < name.length ∧ name.length ≤ maxName := by
  constructor
  · intro h
    unfold nameOf at h
    split at h
    · cases h
    · split at h
      · cases h
      rename_i unbroken
      obtain rfl := text?_eq_some.1 unbroken
      split at h
      · cases h
      rename_i nonempty
      split at h
      · cases h
      rename_i short
      cases h
      exact ⟨rfl, Nat.pos_of_ne_zero nonempty, Nat.not_lt.1 short⟩
    · cases h
  · rintro ⟨rfl, nonempty, short⟩
    simp only [nameOf, text?_points, if_neg (Nat.ne_of_gt nonempty), if_neg (Nat.not_lt.2 short)]

theorem descriptionOf_eq_ok {member : Option Json} {description : Option String} :
    descriptionOf member = .ok description ↔
      Describes member description ∧ ∀ s ∈ description, s.length ≤ maxDescription := by
  constructor
  · intro h
    unfold descriptionOf at h
    split at h
    · cases h
      exact ⟨.absent, nofun⟩
    · cases h
      exact ⟨.null, nofun⟩
    · split at h
      · cases h
      rename_i s unbroken
      obtain rfl := text?_eq_some.1 unbroken
      split at h
      · cases h
      rename_i short
      cases h
      refine ⟨.text s, ?_⟩
      rintro _ ⟨⟩
      exact Nat.not_lt.1 short
    · cases h
  · rintro ⟨describes, short⟩
    cases describes with
    | absent => rfl
    | null => rfl
    | text s => simp only [descriptionOf, text?_points, if_neg (Nat.not_lt.2 (short s rfl))]

/-! ## Values and bodies -/

theorem draftOf_eq_ok (server : Server) : draftOf server v = .ok draft ↔ Holds v draft ∧ draft.InSize := by
  constructor
  · intro h
    unfold draftOf at h
    split at h
    · split at h
      · rename_i members _ _ name description named described
        cases h
        obtain ⟨name_eq, nonempty, short⟩ := nameOf_eq_ok.1 named
        obtain ⟨describes, short'⟩ := descriptionOf_eq_ok.1 described
        exact ⟨⟨name_eq, describes⟩, ⟨nonempty, short, short'⟩⟩
      · cases h
    · cases h
  · rintro ⟨holds, inSize⟩
    cases v with
    | object members =>
      have named := nameOf_eq_ok.2 ⟨holds.name, inSize.named, inSize.name⟩
      have described := descriptionOf_eq_ok.2 ⟨holds.description, inSize.description⟩
      rw [Json.member?] at named described
      simp only [draftOf, named, described]
    | _ => cases holds.name

theorem readDraft_eq_ok {server : Server} {contentType : Option String} {body : List UInt8} :
    server.readDraft contentType body = .ok draft ↔
      body.isEmpty = false ∧ server.countsAsJson contentType = true ∧
        ∃ v, readJson server.depth body = .ok v ∧ Holds v draft ∧ draft.InSize := by
  unfold Server.readDraft
  split
  · rename_i empty
    simp [empty]
  · rename_i nonempty
    split
    · rename_i json
      cases read : readJson server.depth body with
      | error fault => simp [bind, Except.bind]
      | ok v =>
        cases drafted : draftOf server v with
        | error problems =>
          have refused : ¬(Holds v draft ∧ draft.InSize) := by
            rw [← draftOf_eq_ok server, drafted]
            nofun
          simp [bind, Except.bind, drafted, refused]
        | ok draft' =>
          have taken : draft' = draft ↔ Holds v draft ∧ draft.InSize := by
            rw [← draftOf_eq_ok server, drafted, Except.ok.injEq]
          simp [bind, Except.bind, drafted, taken, nonempty, json]
    · rename_i other
      simp [other]

/-! ## Texts -/

theorem readJson_text (wellFormed : v.WellFormed) (depth : Nat) :
    readJson depth (Utf8.octets v.text) =
      if (Json.obstacle depth v).isNone then .ok v else .error .unreadable := by
  rw [readJson, Utf8.octets_toNat, Json.text, String.toList_ofList, Json.received_write wellFormed]
  dsimp only
  rw [Json.read_write wellFormed]
  cases stop : Json.obstacle depth v with
  | none => rfl
  | some stop' => rcases Json.obstacle_cases stop with rfl | rfl <;> rfl

theorem isEmpty_of_readJson {depth : Nat} {body : List UInt8}
    (read : ∀ problems, readJson depth body ≠ .error (.invalid problems)) :
    body.isEmpty = false := by
  rw [← Bool.not_eq_true, List.isEmpty_iff]
  rintro rfl
  refine read [⟨.malformed, .bodyAt 0, none⟩] ?_
  cases depth <;> rfl

/-! ## Posts -/

variable {limits : PageLimits} {c : Catalogue} {r : Request}

theorem answer_of_posting (post : r.method = "POST")
    (routed : Route.ofPath? (Percent.decode r.path.toList) = some .collection) :
    Application.answer limits c r = Application.create c r := by
  simp only [Application.answer, routed, post, if_true]

theorem create_of_draft (read : r.server.readDraft (r.header? "content-type") r.body = .ok draft) :
    Application.create c r =
      ((c.add draft).1, { status := 201, payload := .item (c.add draft).2 }) := by
  simp only [Application.create, read]

end Api

end PagedCatalogue

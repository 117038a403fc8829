import PagedCatalogue.Proofs.Api.Body

/-!
# What a refusal quotes

What is asked of a value is told field by field, apart from the code that reads it. A refusal quotes
what it refuses, and not every value can be quoted.
-/

namespace PagedCatalogue.Api

open Text

variable {v quoted : Json} {members : List (List Point × Json)} {member : Option Json}
  {problems : List Problem} {server : Server}

/-! ## What is asked of a value -/

inductive NameFits : Option Json → Prop
  | text {s : List Point} (nonempty : 0 < s.length) (short : s.length ≤ maxName) :
      NameFits (some (.string s))

inductive DescriptionFits : Option Json → Prop
  | absent : DescriptionFits none
  | null : DescriptionFits (some .null)
  | text {s : List Point} (short : s.length ≤ maxDescription) : DescriptionFits (some (.string s))

-- No value but an object has members, so only an object is acceptable.
structure Acceptable (v : Json) : Prop where
  name : NameFits (v.member? "name")
  description : DescriptionFits (v.member? "description")

/-- A member that is a text, if it is a string. -/
def IsUnicode : Option Json → Prop
  | some (.string s) => s.all Point.isChar = true
  | _ => True

-- A text is stored as it is, so half of a pair keeps a value from being taken.
structure Storable (v : Json) : Prop where
  acceptable : Acceptable v
  name : IsUnicode (v.member? "name")
  description : IsUnicode (v.member? "description")

/-- What a refusal of a value quotes: each member that does not fit or is no text, and the value
itself in place of a missing name. -/
inductive Quotes (v : Json) : Json → Prop
  | name {quoted : Json} (found : v.member? "name" = some quoted)
      (unfit : ¬(NameFits (some quoted) ∧ IsUnicode (some quoted))) : Quotes v quoted
  | whole (missing : v.member? "name" = none) : Quotes v v
  | description {quoted : Json} (found : v.member? "description" = some quoted)
      (unfit : ¬(DescriptionFits (some quoted) ∧ IsUnicode (some quoted))) : Quotes v quoted

structure Writable (server : Server) (v : Json) : Prop where
  shallow : v.height ≤ server.echo
  finite : v.isFinite = true
  unbroken : v.isUnbroken = true

def Quotable (server : Server) (v : Json) : Prop := ∀ quoted, Quotes v quoted → Writable server quoted

/-- The first thing that keeps a refusal of a value from being written. -/
inductive Hinders (server : Server) (v : Json) : Hindrance → Prop
  | tooDeep {quoted : Json} (quotes : Quotes v quoted) (deep : server.echo < quoted.height) :
      Hinders server v .tooDeep
  | notFinite {quoted : Json} (shallow : ∀ quoted, Quotes v quoted → quoted.height ≤ server.echo)
      (quotes : Quotes v quoted) (infinite : quoted.isFinite = false) : Hinders server v .notFinite
  | notEncodable {quoted : Json} (shallow : ∀ quoted, Quotes v quoted → quoted.height ≤ server.echo)
      (finite : ∀ quoted, Quotes v quoted → quoted.isFinite = true) (quotes : Quotes v quoted)
      (broken : quoted.isUnbroken = false) : Hinders server v .notEncodable

/-! ## Fields -/

theorem length_points_toList (s : String) : (points s.toList).length = s.length :=
  (length_points _).trans String.length_toList

theorem nameFits_iff :
    NameFits member ∧ IsUnicode member ↔ ∃ name, nameOf member = .ok name := by
  constructor
  · rintro ⟨⟨nonempty, short⟩, unicode⟩
    obtain ⟨name, rfl⟩ := exists_points unicode
    rw [length_points_toList] at nonempty short
    exact ⟨name, nameOf_eq_ok.2 ⟨rfl, nonempty, short⟩⟩
  · rintro ⟨name, named⟩
    obtain ⟨rfl, nonempty, short⟩ := nameOf_eq_ok.1 named
    rw [← length_points_toList] at nonempty short
    exact ⟨.text nonempty short, all_isChar_points _⟩

theorem descriptionFits_iff : DescriptionFits member ∧ IsUnicode member ↔
    ∃ description, descriptionOf member = .ok description := by
  constructor
  · rintro ⟨fits, unicode⟩
    cases fits with
    | absent => exact ⟨none, rfl⟩
    | null => exact ⟨none, rfl⟩
    | text short =>
      obtain ⟨s, rfl⟩ := exists_points unicode
      rw [length_points_toList] at short
      refine ⟨some s, descriptionOf_eq_ok.2 ⟨.text s, ?_⟩⟩
      rintro _ ⟨⟩
      exact short
  · rintro ⟨description, described⟩
    obtain ⟨describes, short⟩ := descriptionOf_eq_ok.1 described
    cases describes with
    | absent => exact ⟨.absent, trivial⟩
    | null => exact ⟨.null, trivial⟩
    | text s =>
      have short := short s rfl
      rw [← length_points_toList] at short
      exact ⟨.text short, all_isChar_points _⟩

theorem storable_iff : Storable v ↔ ∃ draft, Holds v draft ∧ draft.InSize := by
  constructor
  · rintro ⟨⟨name, description⟩, nameUnicode, descriptionUnicode⟩
    obtain ⟨name, named⟩ := nameFits_iff.1 ⟨name, nameUnicode⟩
    obtain ⟨description, described⟩ := descriptionFits_iff.1 ⟨description, descriptionUnicode⟩
    obtain ⟨name_eq, nonempty, short⟩ := nameOf_eq_ok.1 named
    obtain ⟨describes, short'⟩ := descriptionOf_eq_ok.1 described
    exact ⟨⟨name, description⟩, ⟨name_eq, describes⟩, ⟨nonempty, short, short'⟩⟩
  · rintro ⟨draft, holds, inSize⟩
    obtain ⟨name, nameUnicode⟩ := nameFits_iff.2
      ⟨_, nameOf_eq_ok.2 ⟨holds.name, inSize.named, inSize.name⟩⟩
    obtain ⟨description, descriptionUnicode⟩ := descriptionFits_iff.2
      ⟨_, descriptionOf_eq_ok.2 ⟨holds.description, inSize.description⟩⟩
    exact ⟨⟨name, description⟩, nameUnicode, descriptionUnicode⟩

theorem isUnicode_of_writable (writable : ∀ v ∈ member, Writable server v) : IsUnicode member := by
  cases member with
  | none => trivial
  | some v =>
    have unbroken := (writable v rfl).unbroken
    cases v with
    | string s => exact unbroken
    | _ => trivial

/-! ## What is quoted -/

def quotedFor {α : Type} (members : List (List Point × Json)) (name : String) :
    Except Defect α → List Json
  | .ok _ => []
  | .error _ => [(Json.lookup? members name).getD (.object members)]

theorem hindrances_problemsOf {α : Type} (server : Server) (members : List (List Point × Json))
    (name : String) (reading : Except Defect α) :
    (problemsOf server members name reading).filterMap (·.hindrance) =
      (quotedFor members name reading).filterMap (hindranceTo server) := by
  cases reading <;> rfl

theorem mem_quotedFor {α : Type} {taken : Prop} {name : String} {reading : Except Defect α}
    (taken_iff : taken ↔ ∃ a, reading = .ok a) :
    quoted ∈ quotedFor members name reading ↔
      ¬taken ∧ quoted = (Json.lookup? members name).getD (.object members) := by
  cases reading with
  | ok a =>
    have taken : taken := taken_iff.2 ⟨a, rfl⟩
    simp [quotedFor, taken]
  | error defect =>
    have refused : ¬taken := fun taken => nomatch taken_iff.1 taken
    simp [quotedFor, refused]

theorem quotes_object : Quotes (.object members) quoted ↔
    (¬(NameFits (Json.lookup? members "name") ∧ IsUnicode (Json.lookup? members "name")) ∧
      quoted = (Json.lookup? members "name").getD (.object members)) ∨
    (¬(DescriptionFits (Json.lookup? members "description") ∧
        IsUnicode (Json.lookup? members "description")) ∧
      quoted = (Json.lookup? members "description").getD (.object members)) := by
  constructor
  · intro quotes
    cases quotes with
    | name found unfit =>
      rw [Json.member?] at found
      exact Or.inl (by rw [found]; exact ⟨unfit, rfl⟩)
    | whole missing =>
      rw [Json.member?] at missing
      have unfit : ¬NameFits none := by rintro ⟨⟩
      exact Or.inl (by rw [missing]; exact ⟨fun taken => unfit taken.1, rfl⟩)
    | description found unfit =>
      rw [Json.member?] at found
      exact Or.inr (by rw [found]; exact ⟨unfit, rfl⟩)
  · rintro (⟨unfit, rfl⟩ | ⟨unfit, rfl⟩)
    · cases found : Json.lookup? members "name" with
      | none => exact .whole found
      | some quoted => exact .name found (found ▸ unfit)
    · cases found : Json.lookup? members "description" with
      | none => exact absurd ⟨found ▸ .absent, found ▸ trivial⟩ unfit
      | some quoted => exact .description found (found ▸ unfit)

-- Other values have no members, so the missing name is all that a refusal quotes them for.
theorem quotes_noObject (other : ∀ members, v ≠ .object members) :
    Quotes v quoted ↔ quoted = v := by
  have memberless (name : String) : v.member? name = none := by
    cases v with
    | object members => exact absurd rfl (other members)
    | _ => rfl
  constructor
  · intro quotes
    cases quotes with
    | name found unfit => rw [memberless] at found; cases found
    | whole missing => rfl
    | description found unfit => rw [memberless] at found; cases found
  · rintro rfl
    exact .whole (memberless _)

theorem refused_cases (refused : draftOf server v = .error problems) :
    (∃ members, v = .object members ∧
      problems = problemsOf server members "name" (nameOf (Json.lookup? members "name")) ++
        problemsOf server members "description"
          (descriptionOf (Json.lookup? members "description"))) ∨
    (∀ members, v ≠ .object members) ∧
      problems = [⟨server.objection v, .body, hindranceTo server v⟩] := by
  unfold draftOf at refused
  split at refused
  · split at refused
    · cases refused
    · exact Or.inl ⟨_, rfl, (Except.error.inj refused).symm⟩
  · rename_i other
    exact Or.inr ⟨other, (Except.error.inj refused).symm⟩

theorem hindrances_of_refused (refused : draftOf server v = .error problems) :
    ∃ values : List Json, problems.filterMap (·.hindrance) = values.filterMap (hindranceTo server) ∧
      ∀ quoted, quoted ∈ values ↔ Quotes v quoted := by
  rcases refused_cases refused with ⟨members, rfl, rfl⟩ | ⟨other, rfl⟩
  · refine ⟨quotedFor members "name" (nameOf (Json.lookup? members "name")) ++
      quotedFor members "description" (descriptionOf (Json.lookup? members "description")), ?_, ?_⟩
    · rw [List.filterMap_append, List.filterMap_append, hindrances_problemsOf,
        hindrances_problemsOf]
    · intro quoted
      rw [List.mem_append, mem_quotedFor nameFits_iff, mem_quotedFor descriptionFits_iff,
        quotes_object]
  · refine ⟨[v], rfl, ?_⟩
    intro quoted
    rw [List.mem_singleton, quotes_noObject other]

/-! ## What keeps a refusal from being written -/

theorem hindranceTo_eq_tooDeep : hindranceTo server v = some .tooDeep ↔ server.echo < v.height := by
  unfold hindranceTo
  grind

theorem hindranceTo_eq_notFinite (shallow : v.height ≤ server.echo) :
    hindranceTo server v = some .notFinite ↔ v.isFinite = false := by
  unfold hindranceTo
  grind

theorem hindranceTo_of_finite (shallow : v.height ≤ server.echo) (finite : v.isFinite = true) :
    hindranceTo server v = if v.isUnbroken then none else some .notEncodable := by
  cases unbroken : v.isUnbroken <;> simp [hindranceTo, Nat.not_lt.2 shallow, finite, unbroken]

theorem Hinders.not_quotable {hindrance : Hindrance} (hinders : Hinders server v hindrance) :
    ¬Quotable server v := by
  intro quotable
  cases hinders with
  | tooDeep quotes deep =>
    exact absurd (quotable _ quotes).shallow (Nat.not_le.2 deep)
  | notFinite shallow quotes infinite =>
    rw [(quotable _ quotes).finite] at infinite
    cases infinite
  | notEncodable shallow finite quotes broken =>
    rw [(quotable _ quotes).unbroken] at broken
    cases broken

theorem hindranceOf_of_refused (refused : draftOf server v = .error problems) :
    (hindranceOf problems = none ∧ Quotable server v) ∨
      ∃ hindrance, hindranceOf problems = some hindrance ∧ Hinders server v hindrance := by
  obtain ⟨values, hindrances_eq, mem_values⟩ := hindrances_of_refused refused
  have met (hindrance : Hindrance) : hindrance ∈ problems.filterMap (·.hindrance) ↔
      ∃ quoted, Quotes v quoted ∧ hindranceTo server quoted = some hindrance := by
    simp only [hindrances_eq, List.mem_filterMap, mem_values]
  unfold hindranceOf
  dsimp only
  generalize problems.filterMap (·.hindrance) = hindrances at met
  by_cases tooDeep : Hindrance.tooDeep ∈ hindrances
  · obtain ⟨quoted, quotes, deep⟩ := (met _).1 tooDeep
    exact Or.inr ⟨_, by simp [tooDeep], .tooDeep quotes (hindranceTo_eq_tooDeep.1 deep)⟩
  have shallow : ∀ quoted, Quotes v quoted → quoted.height ≤ server.echo := by
    intro quoted quotes
    refine Nat.not_lt.1 fun deep => tooDeep ((met _).2 ⟨quoted, quotes, ?_⟩)
    exact hindranceTo_eq_tooDeep.2 deep
  by_cases notFinite : Hindrance.notFinite ∈ hindrances
  · obtain ⟨quoted, quotes, hindered⟩ := (met _).1 notFinite
    have infinite := (hindranceTo_eq_notFinite (shallow _ quotes)).1 hindered
    exact Or.inr ⟨_, by simp [tooDeep, notFinite], .notFinite shallow quotes infinite⟩
  have finite : ∀ quoted, Quotes v quoted → quoted.isFinite = true := by
    intro quoted quotes
    rw [← Bool.not_eq_false]
    intro infinite
    exact notFinite ((met _).2
      ⟨quoted, quotes, (hindranceTo_eq_notFinite (shallow _ quotes)).2 infinite⟩)
  have hindranceTo_eq (quoted : Json) (quotes : Quotes v quoted) :
      hindranceTo server quoted = if quoted.isUnbroken then none else some .notEncodable :=
    hindranceTo_of_finite (shallow _ quotes) (finite _ quotes)
  have neither : [.tooDeep, .notFinite].find? (hindrances.contains ·) = none := by
    simp [tooDeep, notFinite]
  rw [neither, Option.none_or]
  cases hindrances with
  | nil =>
    refine Or.inl ⟨rfl, fun quoted quotes => ⟨shallow _ quotes, finite _ quotes, ?_⟩⟩
    rw [← Bool.not_eq_false]
    intro broken
    have hindered := hindranceTo_eq quoted quotes
    rw [broken] at hindered
    cases (met _).2 ⟨quoted, quotes, hindered⟩
  | cons hindrance hindrances =>
    obtain ⟨quoted, quotes, hindered⟩ := (met _).1 List.mem_cons_self
    rw [hindranceTo_eq quoted quotes] at hindered
    split at hindered
    · cases hindered
    · rename_i broken
      cases hindered
      exact Or.inr ⟨_, rfl,
        .notEncodable shallow finite quotes (Bool.eq_false_iff.2 broken)⟩

end PagedCatalogue.Api

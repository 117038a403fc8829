import PagedCatalogue.Negotiation.Carriers
import PagedCatalogue.Proofs.Negotiation.Ending
import PagedCatalogue.Proofs.Text.Query

namespace PagedCatalogue

open Text Negotiation

theorem Text.sameName_congr {name spelling : String} (same : sameName spelling name = true)
    (other : String) : sameName spelling other = sameName name other := by
  rw [sameName, beq_iff_eq] at same
  rw [sameName, sameName, same]

theorem Signal.sameName_name (signal other : Signal) :
    sameName signal.name other.name = decide (signal = other) := by
  cases signal <;> cases other <;> decide

theorem Signal.distinct_names {signal other : Signal} (ne : signal ≠ other) :
    sameName signal.name other.name = false := by
  rw [Signal.sameName_name, decide_eq_false ne]

theorem Signal.name_ne {signal other : Signal} (ne : signal ≠ other) :
    signal.name ≠ other.name := by
  intro same
  have distinct := Signal.distinct_names ne
  rw [same, sameName, beq_self_eq_true] at distinct
  cases distinct

namespace Carriers

variable {limits : PageLimits} {a b carriers : Carriers} {name other s : String}

/-! ## What a request carries -/

def FirstHeader (carriers : Carriers) (name s : String) : Prop :=
  ∃ before spelling after, carriers.headers = before ++ (spelling, s) :: after ∧
    sameName spelling name = true ∧ ∀ h ∈ before, sameName h.1 name = false

inductive Carries (carriers : Carriers) (name : String) : String → Prop
  | query {s : String} (last : Query.Last carriers.query name s) (spoken : blank s = false) :
      Carries carriers name s
  | header {s : String} (silent : ∀ s, Query.Last carriers.query name s → blank s = true)
      (first : FirstHeader carriers name s) :
      Carries carriers name (String.ofList (Percent.decode s.toList))

theorem header?_eq_some : carriers.header? name = some s ↔ FirstHeader carriers name s := by
  simp only [header?, FirstHeader, Option.map_eq_some_iff, Prod.exists, exists_eq_right,
    List.find?_eq_some_iff_append, Bool.not_eq_true']
  constructor
  · rintro ⟨spelling, same, before, after, split, others⟩
    exact ⟨before, spelling, after, split, same, others⟩
  · rintro ⟨before, spelling, after, split, same, others⟩
    exact ⟨spelling, same, before, after, split, others⟩

theorem heard_value?_eq_none : heard (Query.value? carriers.query name) = none ↔
    ∀ s, Query.Last carriers.query name s → blank s = true := by
  simp only [heard, Option.filter_eq_none_iff, Query.value?_eq_some, Bool.not_eq_true',
    Bool.not_eq_false]

theorem value?_eq_some : carriers.value? name = some s ↔ Carries carriers name s := by
  unfold value?
  cases spoken : heard (Query.value? carriers.query name) with
  | some s' =>
    obtain ⟨found, visible⟩ := heard_eq_some.1 spoken
    have last := Query.value?_eq_some.1 found
    constructor
    · rintro ⟨⟩
      exact .query last visible
    · rintro (⟨last', -⟩ | ⟨silent, -⟩)
      · exact found.symm.trans (Query.value?_eq_some.2 last')
      · rw [silent s' last] at visible
        cases visible
  | none =>
    have silent := heard_value?_eq_none.1 spoken
    simp only [Option.map_eq_some_iff]
    constructor
    · rintro ⟨value, found, rfl⟩
      exact .header silent (header?_eq_some.1 found)
    · rintro (⟨last, visible⟩ | ⟨-, first⟩)
      · rw [silent s last] at visible
        cases visible
      · exact ⟨_, header?_eq_some.2 first, rfl⟩

/-! ## Requests that are heard alike -/

/-- Two requests have the same last value in the query string and the same first header under every
name that is asked for. -/
structure Agree (a b : Carriers) : Prop where
  query : ∀ (signal : Signal) s,
    Query.Last a.query signal.name s ↔ Query.Last b.query signal.name s
  header : ∀ (signal : Signal) s, FirstHeader a signal.name s ↔ FirstHeader b signal.name s

structure SameBut (name : String) (a b : Carriers) : Prop where
  query : (Query.pairs a.query).filter (·.1 != name) = (Query.pairs b.query).filter (·.1 != name)
  headers : a.headers.filter (!sameName ·.1 name) = b.headers.filter (!sameName ·.1 name)

theorem header?_of_others (distinct : sameName name other = false)
    (same : a.headers.filter (!sameName ·.1 other) = b.headers.filter (!sameName ·.1 other)) :
    a.header? name = b.header? name := by
  have kept (headers : List (String × String)) : headers.find? (sameName ·.1 name) =
      (headers.filter (!sameName ·.1 other)).find? (sameName ·.1 name) := by
    rw [find?_filter_of_imp]
    intro h named
    rw [sameName_congr named, distinct]
    rfl
  rw [header?, header?, kept, same, ← kept]

-- A header is looked at only where the query string says nothing.
theorem value?_congr (query : Query.value? a.query name = Query.value? b.query name)
    (header : heard (Query.value? a.query name) = none → a.header? name = b.header? name) :
    a.value? name = b.value? name := by
  unfold value?
  rw [← query]
  split
  · rfl
  · rename_i silent
    rw [header silent]

theorem agree_iff : Agree a b ↔ ∀ signal : Signal,
    Query.value? a.query signal.name = Query.value? b.query signal.name ∧
      a.header? signal.name = b.header? signal.name := by
  constructor
  · intro agree signal
    refine ⟨Option.ext fun s => ?_, Option.ext fun s => ?_⟩
    · rw [Query.value?_eq_some, Query.value?_eq_some, agree.query]
    · rw [header?_eq_some, header?_eq_some, agree.header]
  · intro same
    refine ⟨fun signal s => ?_, fun signal s => ?_⟩
    · rw [← Query.value?_eq_some, ← Query.value?_eq_some, (same signal).1]
    · rw [← header?_eq_some, ← header?_eq_some, (same signal).2]

theorem source_eq_of_agree (agree : Agree a b) : a.source = b.source := by
  funext signal
  obtain ⟨query, header⟩ := agree_iff.1 agree signal
  exact value?_congr query fun _ => header

theorem source_eq_of_headers {signal : Signal} {headers : List (String × String)}
    (last : Query.Last a.query signal.name s) (spoken : blank s = false)
    (same : headers.filter (!sameName ·.1 signal.name) =
      a.headers.filter (!sameName ·.1 signal.name)) :
    source { a with headers } = a.source := by
  funext asked
  refine value?_congr rfl ?_
  intro silent
  refine header?_of_others (Signal.distinct_names ?_) same
  rintro rfl
  rw [heard_value?_eq_none.1 silent s last] at spoken
  cases spoken

theorem source_eq_of_sameBut {signal asked : Signal} (ne : asked ≠ signal)
    (same : SameBut signal.name a b) : a.source asked = b.source asked :=
  value?_congr (Query.value?_of_others (Signal.name_ne ne) same.query)
    fun _ => header?_of_others (Signal.distinct_names ne) same.headers

/-! ## Negotiations -/

theorem negotiate_congr (same : a.source = b.source) :
    a.negotiate limits = b.negotiate limits := by
  rw [negotiate, negotiate, same]

theorem apply_eq_of_parameters {source source' : Source} (limit : source .limit = source' .limit)
    (offset : source .offset = source' .offset)
    (spoken : (heard (source .limit)).isSome ∨ (heard (source .offset)).isSome) (w : Window) :
    apply source w = apply source' w := by
  rw [apply_of_parameters spoken, apply_of_parameters (by rwa [← limit, ← offset]), limit, offset]

theorem negotiate_eq_of_sameBut_range {signal : Signal} (parameter : signal ≠ .range)
    (carried : Carries a signal.name s) (spoken : blank s = false)
    (same : SameBut Signal.range.name a b) : a.negotiate limits = b.negotiate limits := by
  have heard_eq : heard (a.source signal) = some s :=
    heard_eq_some.2 ⟨value?_eq_some.2 carried, spoken⟩
  have decided : (heard (a.source .limit)).isSome ∨ (heard (a.source .offset)).isSome := by
    cases signal with
    | limit => exact Or.inl (by rw [heard_eq]; rfl)
    | offset => exact Or.inr (by rw [heard_eq]; rfl)
    | range => exact absurd rfl parameter
  have applied := apply_eq_of_parameters (source_eq_of_sameBut (by decide) same)
    (source_eq_of_sameBut (by decide) same) decided
  simp only [negotiate, fromDefault]
  split
  · rw [applied]
  · rfl

theorem negotiation_depends_on_signals (limits : PageLimits) (a b : Carriers) :
    (Agree a b → a.negotiate limits = b.negotiate limits) ∧
    (∀ (signal : Signal) s headers, Query.Last a.query signal.name s → blank s = false →
      headers.filter (!sameName ·.1 signal.name) = a.headers.filter (!sameName ·.1 signal.name) →
      negotiate limits { a with headers } = a.negotiate limits) ∧
    (∀ (signal : Signal) s, signal ≠ .range → Carries a signal.name s → blank s = false →
      SameBut Signal.range.name a b → a.negotiate limits = b.negotiate limits) :=
  ⟨fun agree => negotiate_congr (source_eq_of_agree agree),
    fun _ _ _ last spoken same => negotiate_congr (source_eq_of_headers last spoken same),
    fun _ _ parameter carried spoken same =>
      negotiate_eq_of_sameBut_range parameter carried spoken same⟩

theorem negotiation_depends_on_signals_duplicates :
    Agree ⟨"limit=1&Limit=9&limit=5", [("offset", "2"), ("Range", "items=0-3")]⟩
      ⟨"limit=5&OFFSET=7", [("x", "y"), ("Offset", "2"), ("range", "items=0-3"), ("offset", "9")]⟩ ∧
    negotiate ⟨25, 1000⟩
        ⟨"limit=1&Limit=9&limit=5", [("offset", "2"), ("Range", "items=0-3")]⟩ =
      negotiate ⟨25, 1000⟩ ⟨"limit=5&OFFSET=7",
        [("x", "y"), ("Offset", "2"), ("range", "items=0-3"), ("offset", "9")]⟩ ∧
    Query.Last "limit=5" "limit" "5" ∧ blank "5" = false ∧
    negotiate ⟨25, 1000⟩ ⟨"limit=5", [("LIMIT", "ten")]⟩ = negotiate ⟨25, 1000⟩ ⟨"limit=5", []⟩ ∧
    Carries ⟨"limit=5", []⟩ "limit" "5" ∧
    SameBut "Range" ⟨"limit=5", []⟩ ⟨"Range=items%3D0-3&limit=5", [("range", "items=7-9")]⟩ ∧
    negotiate ⟨25, 1000⟩ ⟨"limit=5", []⟩ =
      negotiate ⟨25, 1000⟩ ⟨"Range=items%3D0-3&limit=5", [("range", "items=7-9")]⟩ := by
  have agree : Agree ⟨"limit=1&Limit=9&limit=5", [("offset", "2"), ("Range", "items=0-3")]⟩
      ⟨"limit=5&OFFSET=7",
        [("x", "y"), ("Offset", "2"), ("range", "items=0-3"), ("offset", "9")]⟩ := by
    refine agree_iff.2 ?_
    intro signal
    cases signal <;> decide
  have last : Query.Last "limit=5" "limit" "5" := Query.value?_eq_some.1 (by decide)
  have spoken : blank "5" = false := by decide
  have carried : Carries ⟨"limit=5", []⟩ "limit" "5" := .query last spoken
  have same : SameBut "Range" ⟨"limit=5", []⟩
      ⟨"Range=items%3D0-3&limit=5", [("range", "items=7-9")]⟩ := ⟨by decide, by decide⟩
  obtain ⟨alike, -, -⟩ := negotiation_depends_on_signals ⟨25, 1000⟩ _ _
  obtain ⟨-, headers, ranges⟩ := negotiation_depends_on_signals ⟨25, 1000⟩ ⟨"limit=5", []⟩
    ⟨"Range=items%3D0-3&limit=5", [("range", "items=7-9")]⟩
  exact ⟨agree, alike agree, last, spoken, headers .limit "5" _ last spoken (by decide), carried,
    same, ranges .limit "5" (by decide) carried spoken same⟩

end Carriers

end PagedCatalogue

import PagedCatalogue.Proofs.Negotiation.Carriers

namespace PagedCatalogue.Carriers

open Text Negotiation

inductive Respells : String × String → String × String → Prop
  | kept (h : String × String) : Respells h h
  | escaped {name s : String} {cs : List Char} (plain : '%' ∉ s.toList)
      (encodes : Percent.Encodes Percent.isPlain cs s.toList) :
      Respells (name, s) (name, String.ofList cs)

variable {query s : String} {h h' : String × String} {headers headers' : List (String × String)}

def decoded (value : String) : String := String.ofList (Percent.decode value.toList)

theorem decoded_of_plain (plain : '%' ∉ s.toList) : decoded s = s := by
  rw [decoded, Percent.decode_of_encodes rfl (Percent.encodes_self plain), String.ofList_toList]

theorem decoded_ofList {cs : List Char} (encodes : Percent.Encodes Percent.isPlain cs s.toList) :
    decoded (String.ofList cs) = s := by
  rw [decoded, String.toList_ofList, Percent.decode_of_encodes rfl encodes, String.ofList_toList]

theorem Respells.name_eq (respells : Respells h h') : h'.1 = h.1 := by
  cases respells <;> rfl

theorem Respells.decoded_eq (respells : Respells h h') : decoded h'.2 = decoded h.2 := by
  cases respells with
  | kept => rfl
  | escaped plain encodes => rw [decoded_of_plain plain, decoded_ofList encodes]

theorem header?_of_respelled (respelled : List.Forall₂ Respells headers headers')
    (query name : String) :
    (header? ⟨query, headers'⟩ name).map decoded = (header? ⟨query, headers⟩ name).map decoded := by
  simp only [header?]
  induction respelled with
  | nil => rfl
  | @cons h h' headers headers' first rest ih =>
    cases named : sameName h.1 name with
    | true =>
      rw [List.find?_cons_of_pos (by rw [first.name_eq]; exact named),
        List.find?_cons_of_pos (by exact named)]
      exact congrArg some first.decoded_eq
    | false =>
      rw [List.find?_cons_of_neg (by rw [first.name_eq, named]; exact Bool.false_ne_true),
        List.find?_cons_of_neg (by rw [named]; exact Bool.false_ne_true), ih]

theorem value?_eq (carriers : Carriers) (name : String) : carriers.value? name =
    (heard (Query.value? carriers.query name)).or ((carriers.header? name).map decoded) := by
  rw [value?]
  cases heard (Query.value? carriers.query name) <;> rfl

theorem source_of_respelled (respelled : List.Forall₂ Respells headers headers') :
    source ⟨query, headers'⟩ = source ⟨query, headers⟩ := by
  funext signal
  rw [source, source, value?_eq, value?_eq, header?_of_respelled respelled]

theorem source_of_plain {signal : Signal} (first : FirstHeader ⟨query, headers⟩ signal.name s)
    (silent : ∀ s', Query.Last query signal.name s' → blank s' = true) (plain : '%' ∉ s.toList) :
    source ⟨query, headers⟩ signal = some s := by
  have carried : Carries ⟨query, headers⟩ signal.name (decoded s) := .header silent first
  rw [decoded_of_plain plain] at carried
  exact value?_eq_some.2 carried

-- Which headers are asked for does not matter here, so any may be escaped.
theorem escaping_keeps_meaning (limits : PageLimits) (query : String)
    {headers headers' : List (String × String)}
    (respelled : List.Forall₂ Respells headers headers') :
    (∀ (signal : Signal) s, FirstHeader ⟨query, headers⟩ signal.name s → '%' ∉ s.toList →
      (∀ s', Query.Last query signal.name s' → blank s' = true) →
        source ⟨query, headers'⟩ signal = some s) ∧
    source ⟨query, headers'⟩ = source ⟨query, headers⟩ ∧
    negotiate limits ⟨query, headers'⟩ = negotiate limits ⟨query, headers⟩ := by
  have same : source ⟨query, headers'⟩ = source ⟨query, headers⟩ := source_of_respelled respelled
  refine ⟨?_, same, negotiate_congr same⟩
  intro signal s first plain silent
  rw [same]
  exact source_of_plain first silent plain

-- A blank limit that is escaped in part is blank still, and a range has escapes in either case.
theorem escaping_keeps_meaning_of_range :
    List.Forall₂ Respells [("Limit", "\u00a0 "), ("range", "items=0-4")]
      [("Limit", "\u00a0%20"), ("range", "ite%6Ds%3d0%2D4")] ∧
    source ⟨"", [("Limit", "\u00a0%20"), ("range", "ite%6Ds%3d0%2D4")]⟩ .range =
      some "items=0-4" ∧
    negotiate ⟨25, 1000⟩ ⟨"", [("Limit", "\u00a0%20"), ("range", "ite%6Ds%3d0%2D4")]⟩ =
      negotiate ⟨25, 1000⟩ ⟨"", [("Limit", "\u00a0 "), ("range", "items=0-4")]⟩ := by
  have limit : Percent.Encodes Percent.isPlain "\u00a0%20".toList "\u00a0 ".toList :=
    .kept rfl (.ascii (by decide) rfl rfl .nil)
  have range : Percent.Encodes Percent.isPlain "ite%6Ds%3d0%2D4".toList "items=0-4".toList := by
    refine .kept rfl (.kept rfl (.kept rfl (.ascii (by decide) rfl rfl (.kept rfl ?_))))
    exact .ascii (by decide) rfl rfl (.kept rfl (.ascii (by decide) rfl rfl (.kept rfl .nil)))
  have respelled : List.Forall₂ Respells [("Limit", "\u00a0 "), ("range", "items=0-4")]
      [("Limit", "\u00a0%20"), ("range", "ite%6Ds%3d0%2D4")] :=
    .cons (.escaped (by decide) limit) (.cons (.escaped (by decide) range) .nil)
  have first : FirstHeader ⟨"", [("Limit", "\u00a0 "), ("range", "items=0-4")]⟩
      Signal.range.name "items=0-4" := header?_eq_some.1 (by decide)
  obtain ⟨said, -, same⟩ := escaping_keeps_meaning ⟨25, 1000⟩ "" respelled
  refine ⟨respelled, said .range "items=0-4" first (by decide) ?_, same⟩
  intro s last
  cases Query.value?_eq_some.2 last

end PagedCatalogue.Carriers

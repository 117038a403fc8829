import PagedCatalogue.Proofs.Negotiation.Carriers

namespace PagedCatalogue

open Text

theorem Signal.decode_name (signal : Signal) :
    Query.decode signal.name.toList = signal.name.toList := by
  cases signal <;> decide

theorem Signal.equals_not_mem_name (signal : Signal) : '=' ∉ signal.name.toList := by
  cases signal <;> decide

theorem Signal.ampersand_not_mem_name (signal : Signal) : '&' ∉ signal.name.toList := by
  cases signal <;> decide

namespace Carriers

variable {limits : PageLimits} {signal : Signal} {s spelling : String} {cs : List Char}
  {before after : List (List Char)} {front back : List (String × String)}

def inQuery (before after : List (List Char)) (headers : List (String × String)) (name : String)
    (cs : List Char) : Carriers :=
  ⟨Query.joined (before ++ Query.assignment name cs :: after), headers⟩

def inHeader (pieces : List (List Char)) (front back : List (String × String)) (name : String)
    (cs : List Char) : Carriers :=
  ⟨Query.joined pieces, front ++ (name, String.ofList cs) :: back⟩

theorem pairs_inQuery {headers : List (String × String)}
    (whole : ∀ p ∈ before ++ after, '&' ∉ p)
    (encodes : Percent.Encodes Query.isFree cs s.toList) :
    Query.pairs (inQuery before after headers signal.name cs).query =
      Query.pairsOf before ++ (signal.name, s) :: Query.pairsOf after := by
  have pieces : ∀ p ∈ before ++ Query.assignment signal.name cs :: after, '&' ∉ p := by
    intro p mem
    rcases List.mem_append.1 mem with mem | mem
    · exact whole p (List.mem_append_left _ mem)
    rcases List.mem_cons.1 mem with rfl | mem
    · exact Query.not_mem_assignment signal.ampersand_not_mem_name encodes
    · exact whole p (List.mem_append_right _ mem)
  have given : (Query.assignment signal.name cs).isEmpty = false := by simp [Query.assignment]
  rw [inQuery, Query.pairs_joined pieces, Query.pairsOf_append, Query.pairsOf_cons given,
    Query.pair_encoded signal.equals_not_mem_name signal.decode_name encodes]

theorem pairs_inHeader (whole : ∀ p ∈ before ++ after, '&' ∉ p) :
    Query.pairs (inHeader (before ++ after) front back spelling cs).query =
      Query.pairsOf (before ++ after) :=
  Query.pairs_joined whole

theorem source_inQuery {headers : List (String × String)} (spoken : blank s = false)
    (encodes : Percent.Encodes Query.isFree cs s.toList)
    (whole : ∀ p ∈ before ++ after, '&' ∉ p)
    (others : ∀ p ∈ before ++ after, (Query.pair p).1 ≠ signal.name) :
    (inQuery before after headers signal.name cs).source signal = some s := by
  refine value?_eq_some.2 (.query ⟨_, _, pairs_inQuery whole encodes, ?_⟩ spoken)
  exact Query.name_of_mem_pairsOf fun p mem => others p (List.mem_append_right _ mem)

theorem source_inHeader (encodes : Percent.Encodes Query.isFree cs s.toList)
    (same : sameName spelling signal.name = true)
    (whole : ∀ p ∈ before ++ after, '&' ∉ p)
    (others : ∀ p ∈ before ++ after, (Query.pair p).1 ≠ signal.name)
    (noHeader : ∀ h ∈ front ++ back, sameName h.1 signal.name = false) :
    (inHeader (before ++ after) front back spelling cs).source signal = some s := by
  have silent : ∀ s', ¬Query.Last (inHeader (before ++ after) front back spelling cs).query
      signal.name s' := by
    rintro s' ⟨earlier, later, split, -⟩
    have mem : (signal.name, s') ∈
        Query.pairs (inHeader (before ++ after) front back spelling cs).query := by
      rw [split]
      exact List.mem_append_right _ List.mem_cons_self
    rw [pairs_inHeader whole] at mem
    exact Query.name_of_mem_pairsOf others _ mem rfl
  have first : FirstHeader (inHeader (before ++ after) front back spelling cs) signal.name
      (String.ofList cs) :=
    ⟨front, spelling, back, rfl, same, fun h mem => noHeader h (List.mem_append_left _ mem)⟩
  have carried := Carries.header (fun s' last => absurd last (silent s')) first
  rw [String.toList_ofList, Percent.decode_of_encodes (by decide) encodes, String.ofList_toList]
    at carried
  exact value?_eq_some.2 carried

theorem sameBut_carriers (encodes : Percent.Encodes Query.isFree cs s.toList)
    (same : sameName spelling signal.name = true)
    (whole : ∀ p ∈ before ++ after, '&' ∉ p) :
    SameBut signal.name (inQuery before after (front ++ back) signal.name cs)
      (inHeader (before ++ after) front back spelling cs) := by
  constructor
  · rw [pairs_inQuery whole encodes, pairs_inHeader whole, Query.pairsOf_append]
    simp
  · simp [inQuery, inHeader, same]

-- The other pieces and headers may be any that do not have the name.
theorem carriers_agree_on_encoded (limits : PageLimits) (signal : Signal) {s spelling : String}
    {cs : List Char} {before after : List (List Char)} {front back : List (String × String)}
    (spoken : blank s = false) (encodes : Percent.Encodes Query.isFree cs s.toList)
    (same : sameName spelling signal.name = true) (whole : ∀ p ∈ before ++ after, '&' ∉ p)
    (others : ∀ p ∈ before ++ after, (Query.pair p).1 ≠ signal.name)
    (noHeader : ∀ h ∈ front ++ back, sameName h.1 signal.name = false) :
    (inQuery before after (front ++ back) signal.name cs).source signal = some s ∧
    (inHeader (before ++ after) front back spelling cs).source signal = some s ∧
    (inQuery before after (front ++ back) signal.name cs).negotiate limits =
      (inHeader (before ++ after) front back spelling cs).negotiate limits := by
  have inQuery_eq : (inQuery before after (front ++ back) signal.name cs).source signal = some s :=
    source_inQuery spoken encodes whole others
  have inHeader_eq := source_inHeader encodes same whole others noHeader
  refine ⟨inQuery_eq, inHeader_eq, negotiate_congr ?_⟩
  funext asked
  by_cases h : asked = signal
  · rw [h, inQuery_eq, inHeader_eq]
  · exact source_eq_of_sameBut h (sameBut_carriers encodes same whole)

-- One character stands for itself and the others are escaped, with digits of both cases.
theorem carriers_agree_on_encoded_mixed :
    blank "5 é" = false ∧ Percent.Encodes Query.isFree "5%20%C3%a9".toList "5 é".toList ∧
    sameName "LIMIT" "limit" = true ∧
    (inQuery ["Limit=9".toList] [] [("host", "h")] "limit" "5%20%C3%a9".toList).source .limit =
      some "5 é" ∧
    (inHeader ["Limit=9".toList] [("host", "h")] [] "LIMIT" "5%20%C3%a9".toList).source .limit =
      some "5 é" ∧
    (inQuery ["Limit=9".toList] [] [("host", "h")] "limit" "5%20%C3%a9".toList).negotiate
        ⟨25, 1000⟩ =
      (inHeader ["Limit=9".toList] [("host", "h")] [] "LIMIT" "5%20%C3%a9".toList).negotiate
        ⟨25, 1000⟩ := by
  have spoken : blank "5 é" = false := by decide
  have space : Percent.Escapes (Utf8.encodeChar ' ') "%20".toList :=
    @Percent.Escapes.cons 0x20 _ _ [] _ rfl rfl .nil
  have letter : Percent.Escapes (Utf8.encodeChar 'é') "%C3%a9".toList :=
    @Percent.Escapes.cons 0xc3 _ _ [0xa9] _ rfl rfl (.cons rfl rfl .nil)
  have encodes : Percent.Encodes Query.isFree "5%20%C3%a9".toList "5 é".toList :=
    .kept rfl (.escaped space (.escaped letter .nil))
  have same : sameName "LIMIT" "limit" = true := by decide
  exact ⟨spoken, encodes, same,
    @carriers_agree_on_encoded ⟨25, 1000⟩ .limit "5 é" "LIMIT" "5%20%C3%a9".toList
      ["Limit=9".toList] [] [("host", "h")] [] spoken encodes same (by decide) (by decide)
      (by decide)⟩

end Carriers

end PagedCatalogue

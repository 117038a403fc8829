import Mathlib.Data.List.Basic
import PagedCatalogue.Proofs.Text.Percent
import PagedCatalogue.Text.Query

namespace PagedCatalogue.Text

theorem find?_filter_of_imp {α : Type} {p q : α → Bool} (imp : ∀ a, p a = true → q a = true)
    (as : List α) : (as.filter q).find? p = as.find? p := by
  rw [List.find?_filter]
  congr
  funext a
  cases h : p a with
  | true => simp [imp a h]
  | false => simp

namespace Query

variable {query query' name other s : String}

/-! ## The last value -/

def Last (query name s : String) : Prop :=
  ∃ before after, pairs query = before ++ (name, s) :: after ∧ ∀ p ∈ after, p.1 ≠ name

theorem value?_eq_some : value? query name = some s ↔ Last query name s := by
  simp only [value?, Option.map_eq_some_iff, Prod.exists, exists_eq_right,
    List.find?_eq_some_iff_append, beq_iff_eq]
  constructor
  · rintro ⟨_, rfl, after, before, split, others⟩
    refine ⟨before.reverse, after.reverse, ?_, ?_⟩
    · rw [← List.reverse_reverse (pairs query), split]
      simp
    · intro p mem
      simpa using others p (List.mem_reverse.1 mem)
  · rintro ⟨before, after, split, others⟩
    refine ⟨name, rfl, after.reverse, before.reverse, by simp [split], ?_⟩
    intro p mem
    simpa using others p (List.mem_reverse.1 mem)

theorem value?_of_others (ne : name ≠ other)
    (same : (pairs query).filter (·.1 != other) = (pairs query').filter (·.1 != other)) :
    value? query name = value? query' name := by
  have kept (q : String) : (pairs q).reverse.find? (·.1 == name) =
      ((pairs q).filter (·.1 != other)).reverse.find? (·.1 == name) := by
    rw [← List.filter_reverse, find?_filter_of_imp]
    intro p named
    rw [beq_iff_eq.1 named]
    exact bne_iff_ne.2 ne
  simp only [value?, kept, same]

/-! ## Pieces -/

variable {separator : Char} {cs front text : List Char} {pieces : List (List Char)}

def joined (pieces : List (List Char)) : String := String.ofList (List.intercalate ['&'] pieces)

def pairsOf (pieces : List (List Char)) : List (String × String) :=
  (pieces.filter (!·.isEmpty)).map pair

theorem pairsOf_append (pieces more : List (List Char)) :
    pairsOf (pieces ++ more) = pairsOf pieces ++ pairsOf more := by
  rw [pairsOf, List.filter_append, List.map_append]
  rfl

theorem pairsOf_cons {p : List Char} (given : p.isEmpty = false) (pieces : List (List Char)) :
    pairsOf (p :: pieces) = pair p :: pairsOf pieces := by
  simp [pairsOf, given]

theorem name_of_mem_pairsOf (others : ∀ p ∈ pieces, (pair p).1 ≠ name) :
    ∀ p ∈ pairsOf pieces, p.1 ≠ name := by
  intro _ mem
  obtain ⟨p, kept, rfl⟩ := List.mem_map.1 mem
  exact others p (List.mem_of_mem_filter kept)

theorem splitOn_of_not_mem (whole : separator ∉ cs) : splitOn separator cs = [cs] := by
  induction cs with
  | nil => rfl
  | cons c cs ih =>
    simp only [List.mem_cons, not_or] at whole
    rw [splitOn, if_neg (Ne.symm whole.1), ih whole.2]

theorem splitOn_append (whole : separator ∉ front) (cs : List Char) :
    splitOn separator (front ++ separator :: cs) = front :: splitOn separator cs := by
  induction front with
  | nil => simp [splitOn]
  | cons c front ih =>
    simp only [List.mem_cons, not_or] at whole
    rw [List.cons_append, splitOn, if_neg (Ne.symm whole.1), ih whole.2]

theorem splitOn_intercalate (nonempty : pieces ≠ []) (whole : ∀ p ∈ pieces, separator ∉ p) :
    splitOn separator (List.intercalate [separator] pieces) = pieces := by
  induction pieces with
  | nil => exact absurd rfl nonempty
  | cons p pieces ih =>
    have first := whole p List.mem_cons_self
    cases pieces with
    | nil => rw [List.intercalate_singleton, splitOn_of_not_mem first]
    | cons q pieces =>
      rw [List.intercalate_cons_cons, List.append_assoc, List.singleton_append,
        splitOn_append first, ih (List.cons_ne_nil q pieces)]
      exact fun p mem => whole p (List.mem_cons_of_mem _ mem)

theorem pairs_joined (whole : ∀ p ∈ pieces, '&' ∉ p) :
    pairs (joined pieces) = pairsOf pieces := by
  rw [pairs, joined, String.toList_ofList, pairsOf]
  cases pieces with
  | nil => rfl
  | cons p pieces => rw [splitOn_intercalate (List.cons_ne_nil p pieces) whole]

theorem cut_append (whole : separator ∉ front) (cs : List Char) :
    cut separator (front ++ separator :: cs) = (front, cs) := by
  have kept : ∀ c ∈ front, (c != separator) = true := by
    intro c mem
    rw [bne_iff_ne]
    rintro rfl
    exact whole mem
  simp [cut, List.takeWhile_append_of_pos kept, List.dropWhile_append_of_pos kept]

/-! ## Encoded texts -/

def isFree (c : Char) : Bool :=
  0x20 < c.toNat && c.toNat < 0x7f && c != '%' && c != '+' && c != '&' && c != '='

theorem decode_of_encodes (encodes : Percent.Encodes isFree cs text) : decode cs = text := by
  have plus : '+' ∉ cs := Percent.not_mem_of_encodes encodes (by decide) (by decide) (by decide)
  have kept : ∀ c ∈ cs, (if c = '+' then ' ' else c) = id c := by
    intro c mem
    refine if_neg ?_
    rintro rfl
    exact plus mem
  rw [decode, List.map_congr_left kept, List.map_id,
    Percent.decode_of_encodes (by decide) encodes]

def assignment (name : String) (cs : List Char) : List Char := name.toList ++ '=' :: cs

theorem pair_encoded (plain : '=' ∉ name.toList) (known : decode name.toList = name.toList)
    (encodes : Percent.Encodes isFree cs s.toList) : pair (assignment name cs) = (name, s) := by
  rw [pair, assignment, cut_append plain, known, decode_of_encodes encodes, String.ofList_toList,
    String.ofList_toList]

theorem not_mem_assignment (plain : '&' ∉ name.toList)
    (encodes : Percent.Encodes isFree cs text) : '&' ∉ assignment name cs := by
  have value : '&' ∉ cs := Percent.not_mem_of_encodes encodes (by decide) (by decide) (by decide)
  simp only [assignment, List.mem_append, List.mem_cons, not_or]
  exact ⟨plain, by decide, value⟩

end Query

end PagedCatalogue.Text

import PagedCatalogue.Window.ItemRange
import PagedCatalogue.Proofs.Text.Shortest

namespace PagedCatalogue.ItemRange

open Text

def IsRequest (text : String) (first last : List Char) : Prop :=
  text.toList = "items=".toList ++ first ++ '-' :: last ∧
    Decimal.isDigits first = true ∧ Decimal.isDigits last = true

def Names (text : String) (first last : Int) : Prop :=
  ∃ ds ds' : List Char, IsRequest text ds ds' ∧
    ds.length ≤ Decimal.maxDigits ∧ ds'.length ≤ Decimal.maxDigits ∧
    first = Decimal.value ds ∧ last = Decimal.value ds'

def Overlong (text : String) (count : Nat) : Prop :=
  ∃ ds ds' : List Char, IsRequest text ds ds' ∧
    (Decimal.maxDigits < ds.length ∧ count = ds.length ∨
      ds.length ≤ Decimal.maxDigits ∧ Decimal.maxDigits < ds'.length ∧ count = ds'.length)

theorem request?_eq_some_iff {text : String} {first last : List Char} :
    request? text.toList = some (first, last) ↔ IsRequest text first last :=
  request?_eq_some

theorem request?_eq_none {text : String} :
    request? text.toList = none ↔ ¬∃ first last, IsRequest text first last := by
  cases read : request? text.toList with
  | none =>
    simp only [true_iff]
    rintro ⟨first, last, written⟩
    rw [request?_eq_some_iff.2 written] at read
    cases read
  | some digits =>
    simp only [reduceCtorEq, false_iff, Classical.not_not]
    exact ⟨digits.1, digits.2, request?_eq_some_iff.1 read⟩

theorem Names.nonneg {text : String} {first last : Int} (h : Names text first last) :
    0 ≤ first ∧ 0 ≤ last := by
  obtain ⟨ds, ds', -, -, -, rfl, rfl⟩ := h
  omega

variable {first last : Int}

theorem toList_request (first last : Int) :
    (request first last).toList =
      "items=".toList ++ Decimal.write first ++ '-' :: Decimal.write last := by
  simp only [request, String.toList_append, Decimal.toList_text, List.append_assoc]
  rfl

theorem isRequest_request (low : 0 ≤ first) (low' : 0 ≤ last) :
    IsRequest (request first last) (Decimal.write first) (Decimal.write last) :=
  ⟨toList_request first last, Decimal.isDigits_write low, Decimal.isDigits_write low'⟩

theorem names_request (low : 0 ≤ first) (low' : 0 ≤ last)
    (short : (Decimal.digits first.natAbs).length ≤ Decimal.maxDigits)
    (short' : (Decimal.digits last.natAbs).length ≤ Decimal.maxDigits) :
    Names (request first last) first last := by
  obtain ⟨m, rfl⟩ := Int.eq_ofNat_of_zero_le low
  obtain ⟨n, rfl⟩ := Int.eq_ofNat_of_zero_le low'
  exact ⟨_, _, isRequest_request low low', short, short', (Decimal.value_write low).symm,
    (Decimal.value_write low').symm⟩

theorem blank_request (first last : Int) : blank (request first last) = false := by
  rw [blank, toList_request, List.append_assoc, List.all_append, Bool.and_eq_false_iff]
  exact Or.inl (by decide)

end PagedCatalogue.ItemRange

import PagedCatalogue.Text.Decimal

namespace PagedCatalogue.ItemRange

open Text

def span (cs : List Char) : Option (List Char × List Char × List Char) :=
  match cs.dropWhile Char.isDigit with
  | '-' :: r =>
    if (cs.takeWhile Char.isDigit).isEmpty || (r.takeWhile Char.isDigit).isEmpty then none
    else some (cs.takeWhile Char.isDigit, r.takeWhile Char.isDigit, r.dropWhile Char.isDigit)
  | _ => none

def request? : List Char → Option (List Char × List Char)
  | 'i' :: 't' :: 'e' :: 'm' :: 's' :: '=' :: r =>
    match span r with
    | some (first, last, []) => some (first, last)
    | _ => none
  | _ => none

def answer? : List Char → Option (List Char × List Char × List Char)
  | 'i' :: 't' :: 'e' :: 'm' :: 's' :: ' ' :: r =>
    match span r with
    | some (first, last, '/' :: total) =>
      if Decimal.isDigits total then some (first, last, total) else none
    | _ => none
  | _ => none

def request (first last : Int) : String :=
  "items=" ++ Decimal.text first ++ "-" ++ Decimal.text last

theorem takeWhile_append_of_all {a r : List Char} (all : a.all Char.isDigit = true)
    (stop : r.head?.all (!·.isDigit) = true) : (a ++ r).takeWhile Char.isDigit = a := by
  induction a with
  | nil => cases r <;> simp_all
  | cons c a ih => simp_all

theorem dropWhile_append_of_all {a r : List Char} (all : a.all Char.isDigit = true)
    (stop : r.head?.all (!·.isDigit) = true) : (a ++ r).dropWhile Char.isDigit = r := by
  induction a with
  | nil => cases r <;> simp_all
  | cons c a ih => simp_all

theorem head?_dropWhile (cs : List Char) :
    (cs.dropWhile Char.isDigit).head?.all (!·.isDigit) = true := by
  induction cs with
  | nil => rfl
  | cons c cs ih =>
    rw [List.dropWhile_cons]
    split
    · exact ih
    · simp_all

theorem span_eq_some {cs first last r : List Char} :
    span cs = some (first, last, r) ↔ cs = first ++ '-' :: (last ++ r) ∧
      Decimal.isDigits first = true ∧ Decimal.isDigits last = true ∧
        r.head?.all (!·.isDigit) = true := by
  constructor
  · intro h
    unfold span at h
    split at h
    · rename_i rest hd
      split at h
      · cases h
      · rename_i ne
        simp only [Bool.or_eq_true, not_or, Bool.not_eq_true] at ne
        simp only [Option.some.injEq, Prod.mk.injEq] at h
        obtain ⟨rfl, rfl, rfl⟩ := h
        refine ⟨?_, ?_, ?_, head?_dropWhile rest⟩
        · rw [List.takeWhile_append_dropWhile, ← hd, List.takeWhile_append_dropWhile]
        · simp [Decimal.isDigits, ne.1]
        · simp [Decimal.isDigits, ne.2]
    · cases h
  · rintro ⟨rfl, hf, hl, stop⟩
    simp only [Decimal.isDigits, Bool.and_eq_true, Bool.not_eq_true'] at hf hl
    unfold span
    rw [dropWhile_append_of_all hf.2 (by rfl), takeWhile_append_of_all hf.2 (by rfl)]
    simp only [takeWhile_append_of_all hl.2 stop, dropWhile_append_of_all hl.2 stop, hf.1, hl.1,
      Bool.or_self, Bool.false_eq_true, if_false]

theorem request?_eq_some {cs first last : List Char} :
    request? cs = some (first, last) ↔ cs = "items=".toList ++ first ++ '-' :: last ∧
      Decimal.isDigits first = true ∧ Decimal.isDigits last = true := by
  constructor
  · intro h
    unfold request? at h
    split at h
    · split at h
      · rename_i hs
        simp only [Option.some.injEq, Prod.mk.injEq] at h
        obtain ⟨rfl, rfl⟩ := h
        obtain ⟨rfl, hf, hl, -⟩ := span_eq_some.1 hs
        exact ⟨by simp, hf, hl⟩
      · cases h
    · cases h
  · rintro ⟨rfl, hf, hl⟩
    have hs : span (first ++ '-' :: last) = some (first, last, []) :=
      span_eq_some.2 ⟨by simp, hf, hl, rfl⟩
    simp [request?, hs]

theorem answer?_eq_some {cs first last total : List Char} :
    answer? cs = some (first, last, total) ↔
      cs = "items ".toList ++ first ++ '-' :: (last ++ '/' :: total) ∧
        Decimal.isDigits first = true ∧ Decimal.isDigits last = true ∧
          Decimal.isDigits total = true := by
  constructor
  · intro h
    unfold answer? at h
    split at h
    · split at h
      · rename_i hs
        split at h
        · rename_i ht
          simp only [Option.some.injEq, Prod.mk.injEq] at h
          obtain ⟨rfl, rfl, rfl⟩ := h
          obtain ⟨rfl, hf, hl, -⟩ := span_eq_some.1 hs
          exact ⟨by simp, hf, hl, ht⟩
        · cases h
      · cases h
    · cases h
  · rintro ⟨rfl, hf, hl, ht⟩
    have hs : span (first ++ '-' :: (last ++ '/' :: total)) = some (first, last, '/' :: total) :=
      span_eq_some.2 ⟨rfl, hf, hl, rfl⟩
    simp [answer?, hs, ht]

end PagedCatalogue.ItemRange

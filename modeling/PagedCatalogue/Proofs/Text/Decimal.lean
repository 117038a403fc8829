import PagedCatalogue.Text.Decimal

namespace PagedCatalogue.Text.Decimal

inductive Denotes : List Char → Int → Prop
  | bare {ds : List Char} (digits : isDigits ds = true) (short : ds.length ≤ maxDigits) :
      Denotes ds (value ds)
  | plus {ds : List Char} (digits : isDigits ds = true) (short : ds.length ≤ maxDigits) :
      Denotes ('+' :: ds) (value ds)
  | minus {ds : List Char} (digits : isDigits ds = true) (short : ds.length ≤ maxDigits) :
      Denotes ('-' :: ds) (-value ds)

theorem readDigits_eq_ok {ds : List Char} {n : Nat} :
    readDigits ds = .ok n ↔ ds.length ≤ maxDigits ∧ n = value ds := by
  unfold readDigits
  split
  · rename_i short
    simp only [Except.ok.injEq, short, true_and, eq_comm]
  · rename_i long
    simp only [reduceCtorEq, long, false_and]

theorem readDigits_of_long {ds : List Char} (long : maxDigits < ds.length) :
    readDigits ds = .error (.tooManyDigits ds.length) :=
  if_neg (Nat.not_le.mpr long)

theorem isDigit_of_isDigits {c : Char} {ds : List Char} (h : isDigits (c :: ds) = true) :
    c.isDigit = true := by
  simp only [isDigits, List.isEmpty_cons, Bool.not_false, List.all_cons, Bool.true_and,
    Bool.and_eq_true] at h
  exact h.1

theorem splitSign_of_isDigits {ds : List Char} (h : isDigits ds = true) :
    splitSign ds = (false, ds) := by
  unfold splitSign
  split
  · exact absurd (isDigit_of_isDigits h) (by decide)
  · exact absurd (isDigit_of_isDigits h) (by decide)
  · rfl

theorem splitSign_cases (cs : List Char) :
    (∃ ds, cs = '-' :: ds ∧ splitSign cs = (true, ds)) ∨
    (∃ ds, cs = '+' :: ds ∧ splitSign cs = (false, ds)) ∨ splitSign cs = (false, cs) := by
  unfold splitSign
  split
  · exact Or.inl ⟨_, rfl, rfl⟩
  · exact Or.inr (Or.inl ⟨_, rfl, rfl⟩)
  · exact Or.inr (Or.inr rfl)

theorem read_eq_ok {cs : List Char} {n : Int} : read cs = .ok n ↔ Denotes cs n := by
  constructor
  · intro h
    unfold read at h
    split at h
    · rename_i digits
      cases magnitude : readDigits (splitSign cs).2 with
      | error fault => simp [magnitude, Except.map] at h
      | ok m =>
        obtain ⟨short, rfl⟩ := readDigits_eq_ok.1 magnitude
        simp only [magnitude, Except.map, Except.ok.injEq] at h
        subst h
        rcases splitSign_cases cs with ⟨ds, rfl, split⟩ | ⟨ds, rfl, split⟩ | split
        · rw [split] at digits short ⊢
          exact .minus digits short
        · rw [split] at digits short ⊢
          exact .plus digits short
        · rw [split] at digits short ⊢
          exact .bare digits short
    · cases h
  · intro h
    cases h with
    | bare digits short =>
      simp only [read, splitSign_of_isDigits digits, digits, readDigits_eq_ok.2 ⟨short, rfl⟩,
        if_true, Except.map, signed, Bool.false_eq_true, if_false]
    | plus digits short =>
      simp only [read, splitSign, digits, readDigits_eq_ok.2 ⟨short, rfl⟩, if_true, Except.map,
        signed, Bool.false_eq_true, if_false]
    | minus digits short =>
      simp only [read, splitSign, digits, readDigits_eq_ok.2 ⟨short, rfl⟩, if_true, Except.map,
        signed]

theorem Denotes.unique {cs : List Char} {m n : Int} (hm : Denotes cs m) (hn : Denotes cs n) :
    m = n := by
  have h := read_eq_ok.2 hm
  rw [read_eq_ok.2 hn, Except.ok.injEq] at h
  exact h.symm

end PagedCatalogue.Text.Decimal

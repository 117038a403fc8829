import Mathlib.Algebra.Group.Nat.Defs
import PagedCatalogue.Proofs.Text.Decimal
import PagedCatalogue.Text.Blank

namespace PagedCatalogue.Text

theorem isBlank_of_isDigit {c : Char} (h : c.isDigit = true) : isBlank c = false := by
  obtain ⟨low, high⟩ : 48 ≤ c.val.toNat ∧ c.val.toNat ≤ 57 := Char.isDigit_iff_toNat.1 h
  simp only [isBlank, isWhiteSpace, Bool.or_eq_false_iff, Bool.and_eq_false_iff,
    decide_eq_false_iff_not, beq_eq_false_iff_ne, ne_eq, ← UInt32.toNat_inj,
    UInt32.le_iff_toNat_le, UInt32.toNat_ofNat]
  omega

namespace Decimal

/-- Digits without the zeros in front; a single zero where nothing else is left. -/
def withoutZeros (ds : List Char) : List Char :=
  match ds.dropWhile (· == '0') with
  | [] => ['0']
  | c :: r => c :: r

theorem withoutZeros_of_ne {c : Char} (h : c ≠ '0') (ds : List Char) :
    withoutZeros (c :: ds) = c :: ds := by
  simp [withoutZeros, h]

theorem length_withoutZeros_le {ds : List Char} (nonempty : ds ≠ []) :
    (withoutZeros ds).length ≤ ds.length := by
  have shorter := (List.dropWhile_suffix (l := ds) (· == '0')).length_le
  unfold withoutZeros
  split
  · exact List.length_pos_iff.2 nonempty
  · rename_i c r kept
    rwa [kept] at shorter

theorem eq_digitChar_of_isDigit {c : Char} (h : c.isDigit = true) :
    ∃ d, d < 10 ∧ c = Nat.digitChar d := by
  have bounds : 48 ≤ c.toNat ∧ c.toNat ≤ 57 := Char.isDigit_iff_toNat.1 h
  refine ⟨c.toNat - 48, by omega, ?_⟩
  apply Char.toNat_inj.1
  rw [Nat.toNat_digitChar_of_lt_ten (by omega)]
  omega

theorem toDigits_ofDigitChars {ds : List Char} (h : ds.all Char.isDigit = true) {n : Nat}
    (positive : 0 < n) : Nat.toDigits 10 (Nat.ofDigitChars 10 ds n) = Nat.toDigits 10 n ++ ds := by
  induction ds generalizing n with
  | nil => simp
  | cons c ds ih =>
    simp only [List.all_cons, Bool.and_eq_true] at h
    obtain ⟨d, small, rfl⟩ := eq_digitChar_of_isDigit h.1
    rw [Nat.ofDigitChars_cons_digitChar_of_lt_ten small, ih h.2 (by omega),
      ← Nat.toDigits_append_toDigits (by decide) positive small, Nat.toDigits_of_lt_base small,
      List.append_assoc]
    rfl

theorem digits_value {ds : List Char} (h : ds.all Char.isDigit = true) :
    digits (value ds) = withoutZeros ds := by
  induction ds with
  | nil => rfl
  | cons c ds ih =>
    simp only [List.all_cons, Bool.and_eq_true] at h
    by_cases zero : c = '0'
    · subst zero
      exact ih h.2
    · rw [withoutZeros_of_ne zero]
      obtain ⟨d, small, rfl⟩ := eq_digitChar_of_isDigit h.1
      have positive : 0 < d := by
        apply Nat.pos_of_ne_zero
        rintro rfl
        exact zero rfl
      rw [digits, value, Nat.ofDigitChars_cons_digitChar_of_lt_ten small, Nat.mul_zero,
        Nat.zero_add, toDigits_ofDigitChars h.2 positive, Nat.toDigits_of_lt_base small]
      rfl

theorem digits_eq_withoutZeros (n : Nat) : digits n = withoutZeros (digits n) := by
  have all : (digits n).all Char.isDigit = true := List.all_eq_true.2 fun _ => isDigit_of_mem_digits
  rw [← digits_value all, value_digits]

theorem denotes_write {n : Int} (short : (digits n.natAbs).length ≤ maxDigits) :
    Denotes (write n) n := by
  cases n with
  | ofNat n =>
    have denotes := Denotes.bare (isDigits_digits n) short
    rwa [value_digits] at denotes
  | negSucc n =>
    have denotes := Denotes.minus (isDigits_digits (n + 1)) short
    rwa [value_digits] at denotes

theorem length_digits_le {n : Nat} (near : n < 10 ^ 19) : (digits n).length ≤ maxDigits := by
  have few : (digits n).length ≤ 19 := (Nat.length_toDigits_le_iff (by decide) (by decide)).2 near
  exact Nat.le_trans few (by decide)

theorem toList_text (n : Int) : (text n).toList = write n := String.toList_ofList

theorem isDigits_write {n : Int} (low : 0 ≤ n) : isDigits (write n) = true := by
  obtain ⟨n, rfl⟩ := Int.eq_ofNat_of_zero_le low
  exact isDigits_digits n

theorem value_write {n : Int} (low : 0 ≤ n) : value (write n) = n := by
  obtain ⟨n, rfl⟩ := Int.eq_ofNat_of_zero_le low
  exact congrArg Int.ofNat (value_digits n)

theorem isDigit_or_minus_of_mem_write {n : Int} {c : Char} (mem : c ∈ write n) :
    c.isDigit = true ∨ c = '-' := by
  cases n with
  | ofNat n => exact Or.inl (isDigit_of_mem_digits mem)
  | negSucc n =>
    rcases List.mem_cons.1 mem with rfl | mem
    · exact Or.inr rfl
    · exact Or.inl (isDigit_of_mem_digits mem)

theorem exists_isDigit_mem_write (n : Int) : ∃ c ∈ write n, c.isDigit = true := by
  cases n with
  | ofNat n =>
    obtain ⟨c, mem⟩ := List.exists_mem_of_ne_nil _ (digits_ne_nil n)
    exact ⟨c, mem, isDigit_of_mem_digits mem⟩
  | negSucc n =>
    obtain ⟨c, mem⟩ := List.exists_mem_of_ne_nil _ (digits_ne_nil (n + 1))
    exact ⟨c, List.mem_cons_of_mem _ mem, isDigit_of_mem_digits mem⟩

theorem blank_text (n : Int) : blank (text n) = false := by
  obtain ⟨c, mem, digit⟩ := exists_isDigit_mem_write n
  rw [blank, toList_text]
  exact List.all_eq_false.2 ⟨c, mem, by rw [isBlank_of_isDigit digit]; decide⟩

end Decimal

end PagedCatalogue.Text

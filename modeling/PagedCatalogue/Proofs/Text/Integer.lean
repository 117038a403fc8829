import Mathlib.Data.List.TakeWhile
import PagedCatalogue.Proofs.Text.Shortest
import PagedCatalogue.Text.Integer

namespace PagedCatalogue.Text

variable {drop : Char → Bool} {cs ds : List Char}

theorem trim_eq_self (h : ∀ c ∈ cs, drop c = false) : trim drop cs = cs := by
  have kept : ∀ {ds : List Char}, (∀ c ∈ ds, drop c = false) → ds.dropWhile drop = ds := by
    intro ds h
    refine List.dropWhile_eq_self_iff.2 ?_
    intro nonempty
    simp [h ds[0] (List.getElem_mem nonempty)]
  rw [trim, kept h, kept fun c mem => h c (List.mem_reverse.1 mem), List.reverse_reverse]

namespace Decimal

theorem eq_zero_of_head?_withoutZeros (h : (withoutZeros ds).head? = some '0') :
    withoutZeros ds = ['0'] := by
  have kept := List.head?_dropWhile_not (· == '0') ds
  unfold withoutZeros at h ⊢
  split at h
  · rfl
  · rename_i c r front
    rw [front, h] at kept
    cases kept

theorem natAbs_signed (negative : Bool) (n : Nat) : (signed negative n).natAbs = n := by
  cases negative
  · exact Int.natAbs_natCast n
  · exact (Int.natAbs_neg n).trans (Int.natAbs_natCast n)

theorem head?_digits_ne_zero {n : Nat} (positive : 0 < n) : (digits n).head? ≠ some '0' := by
  intro zero
  rw [digits_eq_withoutZeros] at zero
  have single := eq_zero_of_head?_withoutZeros zero
  rw [← digits_eq_withoutZeros] at single
  have n_eq := value_digits n
  rw [single] at n_eq
  exact Nat.ne_of_lt positive n_eq

theorem isEmpty_of_isDigits (h : isDigits ds = true) : ds.isEmpty = false := by
  simp only [isDigits, Bool.and_eq_true, Bool.not_eq_true'] at h
  exact h.1

end Decimal

namespace Integer

open Decimal

/-! ## Numerals that are written -/

theorem takeWhile_isDigit (h : isDigits ds = true) : ds.takeWhile Char.isDigit = ds := by
  simp only [isDigits, Bool.and_eq_true, List.all_eq_true] at h
  exact List.takeWhile_eq_self_iff.2 h.2

theorem plain_of_isDigits (digits : isDigits ds = true) (proper : ds.head? ≠ some '0')
    (short : ds.length ≤ maxDigits) : plain ds = .ok (value ds) := by
  have unsigned : ds.head? ≠ some '-' := by
    cases ds with
    | nil => nofun
    | cons c ds =>
      rintro ⟨⟩
      exact absurd (isDigit_of_isDigits digits) (by decide)
  simp [plain, unsigned, takeWhile_isDigit digits, proper, isEmpty_of_isDigits digits,
    Nat.not_lt.2 short, signed]

theorem plain_minus (digits : isDigits ds = true) (proper : ds.head? ≠ some '0')
    (short : ds.length < maxDigits) : plain ('-' :: ds) = .ok (-value ds) := by
  simp [plain, takeWhile_isDigit digits, proper, isEmpty_of_isDigits digits,
    Nat.not_lt.2 short, signed]

theorem plain_write {n : Int} (near : n.natAbs < 10 ^ 19) : plain (write n) = .ok n := by
  have few : (digits n.natAbs).length ≤ 19 :=
    (Nat.length_toDigits_le_iff (by decide) (by decide)).2 near
  cases n with
  | ofNat n =>
    cases n with
    | zero => rfl
    | succ n =>
      have read := plain_of_isDigits (isDigits_digits (n + 1)) (head?_digits_ne_zero n.succ_pos)
        (Nat.le_trans few (by decide))
      rwa [value_digits] at read
  | negSucc n =>
    have read := plain_minus (isDigits_digits (n + 1)) (head?_digits_ne_zero n.succ_pos)
      (Nat.lt_of_le_of_lt few (by decide))
    rwa [value_digits] at read

theorem not_isWhiteSpace_of_mem_write {n : Int} {c : Char} (mem : c ∈ write n) :
    isWhiteSpace c = false := by
  rcases isDigit_or_minus_of_mem_write mem with digit | rfl
  · have visible := isBlank_of_isDigit digit
    rw [isBlank, Bool.or_eq_false_iff] at visible
    exact visible.1
  · decide

theorem read_text {n : Int} (near : n.natAbs < 10 ^ 19) : read (text n) = .ok n := by
  simp only [read, toList_text, trim_eq_self fun c mem => not_isWhiteSpace_of_mem_write mem,
    plain_write near]

/-! ## How long a numeral can be -/

theorem length_digits_of_plain {n : Int} (h : plain cs = .ok n) :
    (digits n.natAbs).length ≤ maxDigits := by
  unfold plain at h
  dsimp only at h
  generalize (cs.head? == some '-') = negative at h
  generalize (if negative = true then cs.drop 1 else cs) = magnitude at h
  generalize (if negative = true then 1 else 0) = sign at h
  split at h
  · split at h
    · cases h
      decide
    · cases h
  · rename_i proper
    split at h
    · cases h
    · rename_i short
      split at h
      · cases h
        simp only [Bool.or_eq_true, not_or, Bool.not_eq_true, List.isEmpty_eq_false_iff] at proper
        rw [natAbs_signed, digits_value List.all_takeWhile]
        exact (length_withoutZeros_le proper.2).trans (by omega)
      · cases h

theorem length_digits_of_read {s : String} {n : Int} (h : read s = .ok n) :
    (digits n.natAbs).length ≤ maxDigits := by
  unfold read at h
  dsimp only at h
  split at h
  · cases cleared : cleaned (trim isWhiteSpace s.toList) with
    | none =>
      rw [cleared] at h
      cases h
    | some cs =>
      rw [cleared] at h
      exact length_digits_of_plain h
  · exact length_digits_of_plain h

end Integer

end PagedCatalogue.Text

import PagedCatalogue.Proofs.Negotiation.Acceptance

namespace PagedCatalogue.Negotiation

open Text

variable {w after : Window} {source : Source}

theorem Residue.offset_changed (h : Residue source w after) (changed : after.offset ≠ w.offset) :
    w.limit = none ∧ heard (source .limit) = none ∧ after.limit = none := by
  cases h with
  | untouched => exact absurd rfl changed
  | limit gives rejected => exact absurd rfl changed
  | offset unlimited moved =>
    refine ⟨unlimited, ?_, rfl⟩
    rcases moved with alone | range
    · exact alone.1
    · exact range.1

theorem Residue.limit_changed (h : Residue source w after) (changed : after.limit ≠ w.limit) :
    (∃ n, Gives .limit (source .limit) n ∧ after.limit = some n) ∧
      Rejected .offset (source .offset) ∧ after.offset = w.offset := by
  cases h with
  | untouched => exact absurd rfl changed
  | limit gives rejected => exact ⟨⟨_, gives, rfl⟩, rejected, rfl⟩
  | offset unlimited moved => exact absurd unlimited.symm changed

theorem reading_of_rejected {field : Field} {said : Option String} (h : Rejected field said) :
    ∃ fault, reading field said = .error fault := by
  cases read : reading field said with
  | error fault => exact ⟨fault, rfl⟩
  | ok n => exact absurd h (not_rejected_of_ok read)

theorem apply_of_limit_before_rejected {n : Int} (gives : Gives .limit (source .limit) n)
    (rejected : Rejected .offset (source .offset)) :
    (apply source w).window = { w with limit := some n } := by
  obtain ⟨fault, ho⟩ := reading_of_rejected rejected
  rw [apply_of_parameters (Or.inr rejected.1),
    byParameters_of_offset_rejected (reading_eq_some.2 gives) ho]
  rfl

theorem apply_of_offset_before_no_limit {n : Int} (unlimited : w.limit = none)
    (moved : OffsetAlone source n ∨ ReversedRange source n) :
    (apply source w).window = ⟨some n, none⟩ := by
  rcases moved with ⟨noLimit, gives⟩ | ⟨noLimit, noOffset, header, last, said, names, reversed⟩
  · have spoken := Option.isSome_iff_ne_none.2 gives.heard_ne_none
    rw [apply_of_parameters (Or.inr spoken), byParameters_of_no_limit (reading_eq_none.2 noLimit)
      (reading_eq_some.2 gives) unlimited]
    rfl
  · rw [apply_of_range noLimit noOffset said,
      byRangeText_of_backwards_unlimited unlimited names reversed, unlimited]

theorem refusal_changes_at_most_one_value (reachable : w.Reachable)
    (failed : (apply source w).failure ≠ none) (left : after = (apply source w).window) :
    (after.offset = w.offset ∨ after.limit = w.limit) ∧
    (after.offset ≠ w.offset →
      w.limit = none ∧ heard (source .limit) = none ∧ after.limit = none) ∧
    (after.limit ≠ w.limit →
      (∃ n, Gives .limit (source .limit) n ∧ after.limit = some n) ∧
      Rejected .offset (source .offset) ∧ after.offset = w.offset) ∧
    (∀ n, w.limit = none → OffsetAlone source n ∨ ReversedRange source n →
      after = ⟨some n, none⟩) ∧
    (∀ n, Gives .limit (source .limit) n → Rejected .offset (source .offset) →
      after = { w with limit := some n }) ∧
    (w.limit.isSome → after.offset = w.offset) ∧
    (w.limit.isSome → heard (source .limit) = none → heard (source .offset) = none →
      after = w) ∧
    (w.isValid = true → after.isValid = true) := by
  have hw := reachable.inBounds
  have rest : Residue source w after := by
    rw [left]
    exact residue hw failed
  have offsetKept : w.limit.isSome → after.offset = w.offset := by
    intro limited
    apply Classical.byContradiction
    intro changed
    rw [(rest.offset_changed changed).1] at limited
    cases limited
  refine ⟨?_, rest.offset_changed, rest.limit_changed, ?_, ?_, offsetKept, ?_, ?_⟩
  · by_cases changed : after.limit = w.limit
    · exact Or.inr changed
    · exact Or.inl (rest.limit_changed changed).2.2
  · intro n unlimited moved
    rw [left, apply_of_offset_before_no_limit unlimited moved]
  · intro n gives rejected
    rw [left, apply_of_limit_before_rejected gives rejected]
  · intro limited noLimit noOffset
    have limitKept : after.limit = w.limit := by
      apply Classical.byContradiction
      intro changed
      obtain ⟨⟨n, gives, -⟩, -⟩ := rest.limit_changed changed
      exact gives.heard_ne_none noLimit
    calc after = ⟨after.offset, after.limit⟩ := rfl
      _ = w := by rw [offsetKept limited, limitKept]
  · rw [hw.isValid_eq, (rest.inBounds hw).isValid_eq]
    simp only [Window.isComplete, Bool.and_eq_true]
    rintro ⟨offset, limit⟩
    exact ⟨rest.keeps.offset offset, rest.keeps.limit limit⟩

theorem refusal_changes_limit_alone :
    Window.Reachable ⟨some 3, some 25⟩ ∧
    (apply (saying (some "10") (some "-1") none) ⟨some 3, some 25⟩).failure ≠ none ∧
    (apply (saying (some "10") (some "-1") none) ⟨some 3, some 25⟩).window =
      ⟨some 3, some 10⟩ := by
  have reachable : Window.Reachable ⟨some 3, some 25⟩ :=
    @Window.Reachable.made (some (.integer 3)) (some (.integer 25)) _ rfl
  have failed :
      (apply (saying (some "10") (some "-1") none) ⟨some 3, some 25⟩).failure ≠ none := by
    decide
  have gives : Gives .limit (some "10") 10 :=
    ⟨"10", rfl, Decimal.read_eq_ok.1 rfl, by decide, by decide⟩
  have negative : Decimal.Denotes "-1".toList (-1) := Decimal.read_eq_ok.1 rfl
  have rejected : Rejected .offset (some "-1") := by
    refine ⟨rfl, ?_⟩
    rintro ⟨n, text, said, denotes, low, -⟩
    cases said
    have n_eq := denotes.unique negative
    omega
  have changed := refusal_changes_at_most_one_value reachable failed rfl
  exact ⟨reachable, failed, changed.2.2.2.2.1 10 gives rejected⟩

end PagedCatalogue.Negotiation

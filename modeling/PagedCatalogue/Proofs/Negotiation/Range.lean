import PagedCatalogue.Negotiation.Outcome
import PagedCatalogue.Proofs.Window.Bounds
import PagedCatalogue.Proofs.Window.ItemRange

namespace PagedCatalogue.Negotiation

open Text ItemRange

variable {w : Window} {header : String} {first last : Int}

structure Fits (first last : Int) : Prop where
  nearFirst : first ≤ maxOffset
  nearLast : last ≤ maxOffset
  forwards : first - 1 ≤ last
  short : last - first + 1 ≤ maxLimit

structure Reversed (first last : Int) : Prop where
  nearFirst : first ≤ maxOffset
  nearLast : last ≤ maxOffset
  backwards : last < first - 1

inductive RangeKind (header : String) : Prop
  | unreadable (foreign : ¬∃ ds ds', IsRequest header ds ds')
  | overlong {count : Nat} (long : Overlong header count)
  | outside {first last : Int} (names : Names header first last) (misfit : ¬Fits first last)
      (ordered : ¬Reversed first last)
  | span {first last : Int} (names : Names header first last) (fits : Fits first last)
  | backwards {first last : Int} (names : Names header first last) (reversed : Reversed first last)

theorem rangeKind (header : String) : RangeKind header := by
  by_cases written : ∃ ds ds', IsRequest header ds ds'
  · obtain ⟨ds, ds', written⟩ := written
    by_cases long : Decimal.maxDigits < ds.length
    · exact .overlong ⟨ds, ds', written, Or.inl ⟨long, rfl⟩⟩
    by_cases long' : Decimal.maxDigits < ds'.length
    · exact .overlong ⟨ds, ds', written, Or.inr ⟨by omega, long', rfl⟩⟩
    have names : Names header (Decimal.value ds) (Decimal.value ds') :=
      ⟨ds, ds', written, by omega, by omega, rfl, rfl⟩
    by_cases fits : Fits (Decimal.value ds) (Decimal.value ds')
    · exact .span names fits
    by_cases reversed : Reversed (Decimal.value ds) (Decimal.value ds')
    · exact .backwards names reversed
    · exact .outside names fits reversed
  · exact .unreadable written

theorem setOffset_of_near (low : 0 ≤ first) (near : first ≤ maxOffset) :
    w.setOffset (.integer first) = .ok { w with offset := some first } :=
  Window.setOffset_eq_ok.2 ⟨first, rfl, low, near, rfl⟩

theorem setLast_of_fits (fits : Fits first last) :
    Window.setLast { w with offset := some first } (.integer last) =
      .ok ⟨some first, some (last - first + 1)⟩ := by
  have short := fits.short
  exact Window.setLast_eq_ok.2 ⟨first, last, rfl, rfl, fits.forwards, by omega, rfl⟩

theorem inBounds_of_fits (low : 0 ≤ first) (fits : Fits first last) :
    Window.InBounds ⟨some first, some (last - first + 1)⟩ := by
  have forwards := fits.forwards
  exact (Window.unset_inBounds.withOffset low fits.nearFirst).withLimit (by omega) fits.short

theorem byRangeText_of_unreadable (foreign : ¬∃ ds ds', IsRequest header ds ds') :
    byRangeText w header =
      ⟨w, some (.refused (.unreadableRange header)), [.rangeUnreadable header]⟩ := by
  simp only [byRangeText, request?_eq_none.2 foreign]

theorem byRangeText_of_overlong {count : Nat} (long : Overlong header count) :
    byRangeText w header = ⟨w, some (.fault (.numeral (.tooManyDigits count))), []⟩ := by
  obtain ⟨ds, ds', written, ⟨long, rfl⟩ | ⟨short, long, rfl⟩⟩ := long
  · simp only [byRangeText, request?_eq_some_iff.2 written, Decimal.readDigits_of_long long]
  · simp only [byRangeText, request?_eq_some_iff.2 written, Decimal.readDigits_of_long long,
      Decimal.readDigits_eq_ok.2 ⟨short, rfl⟩]

theorem byRangeText_of_names (names : Names header first last) :
    byRangeText w header = byPositions w header first last := by
  obtain ⟨ds, ds', written, short, short', rfl, rfl⟩ := names
  simp only [byRangeText, request?_eq_some_iff.2 written, Decimal.readDigits_eq_ok.2 ⟨short, rfl⟩,
    Decimal.readDigits_eq_ok.2 ⟨short', rfl⟩]

theorem byRangeText_of_outside (names : Names header first last) (misfit : ¬Fits first last)
    (ordered : ¬Reversed first last) :
    byRangeText w header =
      ⟨w, some (.refused (.rangeOutOfBounds header)), [.rangeOutOfBounds header]⟩ := by
  rw [byRangeText_of_names names]
  refine if_pos (Decidable.byContradiction ?_)
  intro near
  by_cases backwards : last < first - 1
  · exact ordered ⟨by omega, by omega, backwards⟩
  · exact misfit ⟨by omega, by omega, by omega, by omega⟩

theorem byRangeText_of_span (names : Names header first last) (fits : Fits first last) :
    byRangeText w header = ⟨⟨some first, some (last - first + 1)⟩, none, []⟩ := by
  have low := names.nonneg.1
  have valid : Window.isValid ⟨some first, some (last - first + 1)⟩ = true :=
    (inBounds_of_fits low fits).isValid_eq
  obtain ⟨nearFirst, nearLast, forwards, short⟩ := fits
  rw [byRangeText_of_names names, byPositions, if_neg (by omega), setOffset_of_near low nearFirst]
  simp only [if_neg (show ¬last < first - 1 by omega),
    setLast_of_fits ⟨nearFirst, nearLast, forwards, short⟩, settle, valid, if_true]

theorem byRangeText_of_backwards (names : Names header first last)
    (reversed : Reversed first last) :
    byRangeText w header = settle { w with offset := some first } header [.limitKept header] := by
  obtain ⟨nearFirst, nearLast, backwards⟩ := reversed
  have near : ¬(maxOffset < first ∨ maxOffset < last ∨ maxLimit < last - first + 1) := by
    simp only [maxLimit]
    omega
  rw [byRangeText_of_names names, byPositions, if_neg near,
    setOffset_of_near names.nonneg.1 nearFirst]
  simp only [if_pos backwards]

theorem byRangeText_of_backwards_limited (hw : w.InBounds) (limited : w.limit.isSome)
    (names : Names header first last) (reversed : Reversed first last) :
    byRangeText w header = ⟨{ w with offset := some first }, none, [.limitKept header]⟩ := by
  have valid := (hw.withOffset names.nonneg.1 reversed.nearFirst).isValid_eq
  rw [byRangeText_of_backwards names reversed, settle, valid]
  simp only [Window.isComplete, Option.isSome_some, limited, Bool.and_self, if_true]

theorem byRangeText_of_backwards_unlimited (unlimited : w.limit = none)
    (names : Names header first last) (reversed : Reversed first last) :
    byRangeText w header = ⟨{ w with offset := some first },
      some (.refused (.rangeOutOfBounds header)), [.limitKept header]⟩ := by
  rw [byRangeText_of_backwards names reversed, settle]
  simp only [Window.isValid, Window.isComplete, unlimited, Option.isSome_none, Bool.and_false,
    Bool.false_and, Bool.false_eq_true, if_false]

end PagedCatalogue.Negotiation

import PagedCatalogue.Proofs.Negotiation.Ending

namespace PagedCatalogue.Negotiation

open Text ItemRange

variable {w : Window} {limit offset : Option String}

theorem byParameters_byParameters (w : Window) (limit offset : Option String) :
    byParameters (byParameters w limit offset).window limit offset =
      byParameters w limit offset := by
  cases hl : reading .limit limit with
  | error fault => simp only [byParameters_of_limit_rejected hl, refuseParameters]
  | ok l =>
    -- What the first attempt leaves as the limit is what the second one makes of it.
    have kept : l.or (l.or w.limit) = l.or w.limit := by
      rw [← Option.or_assoc, Option.or_self]
    cases ho : reading .offset offset with
    | error fault => simp only [byParameters_of_offset_rejected hl ho, refuseParameters, kept]
    | ok o =>
      rw [window_byParameters_of_read hl ho, byParameters_of_read hl ho, byParameters_of_read hl ho]
      simp only [kept]

theorem byRangeText_byRangeText (w : Window) (header : String) :
    byRangeText (byRangeText w header).window header = byRangeText w header := by
  cases rangeKind header with
  | unreadable foreign => simp only [byRangeText_of_unreadable foreign]
  | overlong long => simp only [byRangeText_of_overlong long]
  | outside names misfit ordered => simp only [byRangeText_of_outside names misfit ordered]
  | span names fits => simp only [byRangeText_of_span names fits]
  | backwards names reversed => simp only [byRangeText_of_backwards names reversed, settle]

theorem apply_apply (source : Source) (w : Window) :
    apply source (apply source w).window = apply source w := by
  cases sourceKind source with
  | parameters spoken =>
    rw [apply_of_parameters spoken, apply_of_parameters spoken, byParameters_byParameters]
  | range noLimit noOffset said =>
    rw [apply_of_range noLimit noOffset said, apply_of_range noLimit noOffset said,
      byRangeText_byRangeText]
  | silence noLimit noOffset noRange =>
    rw [apply_of_silence noLimit noOffset noRange, apply_of_silence noLimit noOffset noRange]

def attempted (source : Source) (w : Window) : Nat → Window
  | 0 => w
  | n + 1 => (apply source (attempted source w n)).window

theorem apply_attempted (source : Source) (w : Window) (n : Nat) :
    apply source (attempted source w n) = apply source w := by
  induction n with
  | zero => rfl
  | succ n ih => rw [attempted, ih, apply_apply]

-- An outcome has the failure with its cause, so equal outcomes have the same message too.
theorem retries_change_nothing (source : Source) (w : Window) :
    apply source (apply source w).window = apply source w ∧
    ∀ n, (apply source (attempted source w n)).failure = (apply source w).failure ∧
      attempted source w (n + 1) = (apply source w).window := by
  refine ⟨apply_apply source w, ?_⟩
  intro n
  have same := apply_attempted source w n
  exact ⟨congrArg (·.failure) same, congrArg (·.window) same⟩

end PagedCatalogue.Negotiation

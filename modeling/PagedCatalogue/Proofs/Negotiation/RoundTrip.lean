import PagedCatalogue.Proofs.Negotiation.EntryPoints
import PagedCatalogue.Proofs.Text.Shortest
import PagedCatalogue.Window.Render

namespace PagedCatalogue

open Text ItemRange

def Window.requested (w : Window) : String :=
  String.ofList ((w.items none).toList.map fun c => if c = ' ' then '=' else c)

namespace Negotiation

variable {w : Window} {source : Source} {offset limit first last : Int}

/-! ## What is asked for -/

theorem map_write (n : Int) :
    (Decimal.write n).map (fun c => if c = ' ' then '=' else c) = Decimal.write n := by
  have kept : ∀ c ∈ Decimal.write n, (if c = ' ' then '=' else c) = id c := by
    intro c mem
    refine if_neg ?_
    rintro rfl
    rcases Decimal.isDigit_or_minus_of_mem_write mem with digit | minus
    · exact absurd digit (by decide)
    · exact absurd minus (by decide)
  exact (List.map_congr_left kept).trans (List.map_id _)

theorem toList_requested (w : Window) :
    w.requested.toList =
      "items=".toList ++ Decimal.write w.first ++ '-' :: Decimal.write w.last := by
  simp only [Window.requested, Window.items, Window.shownLast, String.toList_append,
    String.toList_ofList, Decimal.toList_text, List.map_append, map_write]
  simp

theorem requested_eq (w : Window) : w.requested = request w.first w.last := by
  apply String.toList_injective
  rw [toList_requested, toList_request]

theorem isRequest_requested (hf : w.first = first) (hl : w.last = last) (low : 0 ≤ first)
    (low' : 0 ≤ last) : IsRequest w.requested (Decimal.write first) (Decimal.write last) := by
  subst hf hl
  rw [requested_eq]
  exact isRequest_request low low'

theorem names_requested (hw : w.InBounds) (low : 0 ≤ w.last) :
    Names w.requested w.first w.last := by
  have first := hw.first_bounds
  have last := hw.last_bounds
  simp only [maxOffset, maxLimit] at first last
  rw [requested_eq]
  exact names_request first.1 low (Decimal.length_digits_le (by omega))
    (Decimal.length_digits_le (by omega))

theorem blank_requested (w : Window) : blank w.requested = false := by
  rw [requested_eq, blank_request]

theorem gives_text {field : Field} {n : Int} (low : 0 ≤ n) (high : n ≤ field.maximum) :
    Gives field (some (Decimal.text n)) n := by
  have near : n.natAbs < 10 ^ 19 := by
    cases field <;> simp only [Field.maximum, maxOffset, maxLimit] at high <;> omega
  refine ⟨_, heard_eq_some.2 ⟨rfl, Decimal.blank_text n⟩, ?_, low, high⟩
  rw [Decimal.toList_text]
  exact Decimal.denotes_write (Decimal.length_digits_le near)

/-! ## Windows that are found -/

theorem byParameters_of_numerals (hw : w.InBounds) (h : Window.InBounds ⟨some offset, some limit⟩) :
    byParameters w (some (Decimal.text limit)) (some (Decimal.text offset)) =
      ⟨⟨some offset, some limit⟩, none, []⟩ := by
  obtain ⟨low, high⟩ := h.offset offset rfl
  obtain ⟨low', high'⟩ := h.limit limit rfl
  exact byParameters_of_complete hw (reading_eq_some.2 (gives_text low' high'))
    (reading_eq_some.2 (gives_text low high)) rfl

theorem byRangeText_of_requested (h : Window.InBounds ⟨some offset, some limit⟩)
    (begins : 1 ≤ offset + limit) (near : offset + limit - 1 ≤ maxOffset) :
    byRangeText w (Window.requested ⟨some offset, some limit⟩) =
      ⟨⟨some offset, some limit⟩, none, []⟩ := by
  have names : Names (Window.requested ⟨some offset, some limit⟩) offset (offset + limit - 1) :=
    names_requested h (show 0 ≤ offset + limit - 1 by omega)
  have bounds := h.offset offset rfl
  have bounds' := h.limit limit rfl
  have fits : Fits offset (offset + limit - 1) := ⟨bounds.2, near, by omega, by omega⟩
  rw [byRangeText_of_span names fits]
  congr
  omega

theorem byRangeText_of_requested_far (h : Window.InBounds ⟨some offset, some limit⟩)
    (far : maxOffset < offset + limit - 1) :
    (byRangeText w (Window.requested ⟨some offset, some limit⟩)).failure =
      some (.refused (.rangeOutOfBounds (Window.requested ⟨some offset, some limit⟩))) := by
  have low : 0 ≤ offset + limit - 1 := by
    simp only [maxOffset] at far
    omega
  have names : Names (Window.requested ⟨some offset, some limit⟩) offset (offset + limit - 1) :=
    names_requested h low
  refine byRangeText_of_misfit names ?_ ?_
  · rintro ⟨-, near, -, -⟩
    omega
  · rintro ⟨⟨-, near, -⟩, -⟩
    omega

theorem byRangeText_of_requested_none (h : Window.InBounds ⟨some offset, some limit⟩)
    (before : offset + limit < 1) :
    (byRangeText w (Window.requested ⟨some offset, some limit⟩)).failure =
      some (.refused (.unreadableRange (Window.requested ⟨some offset, some limit⟩))) := by
  have low := (h.offset offset rfl).1
  have low' := (h.limit limit rfl).1
  obtain rfl : offset = 0 := by omega
  obtain rfl : limit = 0 := by omega
  refine byRangeText_unreadable_iff.2 (request?_eq_none.1 ?_)
  rw [toList_requested]
  decide

/-! ## Ranges that are accepted -/

theorem write_value {ds : List Char} (digits : Decimal.isDigits ds = true) :
    Decimal.write (Decimal.value ds) = Decimal.withoutZeros ds := by
  simp only [Decimal.isDigits, Bool.and_eq_true] at digits
  exact Decimal.digits_value digits.2

theorem isRequest_of_accepted {header : String}
    (accepted : (byRangeText .unset header).failure = none) :
    ∃ ds ds', IsRequest header ds ds' ∧
      IsRequest (byRangeText .unset header).window.requested
        (Decimal.withoutZeros ds) (Decimal.withoutZeros ds') := by
  cases rangeKind header with
  | unreadable foreign =>
    rw [byRangeText_of_unreadable foreign] at accepted
    cases accepted
  | overlong long =>
    rw [byRangeText_of_overlong long] at accepted
    cases accepted
  | outside names misfit ordered =>
    rw [byRangeText_of_outside names misfit ordered] at accepted
    cases accepted
  | @span first last names fits =>
    rw [byRangeText_of_span names fits]
    obtain ⟨low, low'⟩ := names.nonneg
    have first_eq : Window.first ⟨some first, some (last - first + 1)⟩ = first := rfl
    have last_eq : Window.last ⟨some first, some (last - first + 1)⟩ = last :=
      show first + (last - first + 1) - 1 = last by omega
    have written := isRequest_requested first_eq last_eq low low'
    obtain ⟨ds, ds', request, -, -, rfl, rfl⟩ := names
    rw [write_value request.2.1, write_value request.2.2] at written
    exact ⟨ds, ds', request, written⟩
  | backwards names reversed =>
    rw [byRangeText_of_backwards_unlimited rfl names reversed] at accepted
    cases accepted

/-! ## Entry points -/

inductive Entry (source : Source) : Outcome → Prop
  | unset : Entry source (fromUnset source)
  | default {d : Int} (low : 0 ≤ d) (high : d ≤ maxLimit) :
      Entry source (fromDefault source (some (.integer d)))

theorem Entry.eq_apply {outcome : Outcome} (h : Entry source outcome) :
    ∃ w : Window, w.InBounds ∧ outcome = apply source w := by
  cases h with
  | unset => exact ⟨_, Window.unset_inBounds, rfl⟩
  | default low high => exact ⟨_, seed_inBounds low high, fromDefault_eq low high⟩

theorem rendering_round_trip {w : Window} (reachable : w.Reachable)
    (offsetSet : w.offset = some offset) (limitSet : w.limit = some limit) :
    (∀ source outcome, Entry source outcome →
      source .limit = some (Decimal.text limit) → source .offset = some (Decimal.text offset) →
      outcome.failure = none ∧ outcome.window = w) ∧
    (∀ source outcome, Entry source outcome →
      heard (source .limit) = none → heard (source .offset) = none →
      source .range = some w.requested →
      (outcome.failure = none ∧ outcome.window = w ↔
        1 ≤ offset + limit ∧ w.last ≤ maxOffset) ∧
      (¬(1 ≤ offset + limit ∧ w.last ≤ maxOffset) →
        ∃ refusal, outcome.failure = some (.refused refusal))) ∧
    ∀ source header, heard (source .limit) = none → heard (source .offset) = none →
      heard (source .range) = some header → (fromUnset source).failure = none →
      ∃ ds ds', IsRequest header ds ds' ∧
        IsRequest (fromUnset source).window.requested
          (Decimal.withoutZeros ds) (Decimal.withoutZeros ds') := by
  obtain rfl : w = ⟨some offset, some limit⟩ := by
    cases w
    cases offsetSet
    cases limitSet
    rfl
  have bounds := reachable.inBounds
  refine ⟨?_, ?_, ?_⟩
  · intro source outcome entry limitSaid offsetSaid
    obtain ⟨w, hw, rfl⟩ := entry.eq_apply
    have spoken : heard (source .limit) = some (Decimal.text limit) := by
      rw [limitSaid]
      exact heard_eq_some.2 ⟨rfl, Decimal.blank_text limit⟩
    rw [apply_of_parameters (Or.inl (by rw [spoken]; rfl)), limitSaid, offsetSaid,
      byParameters_of_numerals hw bounds]
    exact ⟨rfl, rfl⟩
  · intro source outcome entry noLimit noOffset rangeSaid
    obtain ⟨w, hw, rfl⟩ := entry.eq_apply
    have said : heard (source .range) = some (Window.requested ⟨some offset, some limit⟩) := by
      rw [rangeSaid]
      exact heard_eq_some.2 ⟨rfl, blank_requested _⟩
    rw [apply_of_range noLimit noOffset said]
    have refused : ¬(1 ≤ offset + limit ∧ Window.last ⟨some offset, some limit⟩ ≤ maxOffset) →
        ∃ refusal, (byRangeText w (Window.requested ⟨some offset, some limit⟩)).failure =
          some (.refused refusal) := by
      intro outside
      by_cases begins : 1 ≤ offset + limit
      · have far : maxOffset < offset + limit - 1 := by
          apply Int.not_le.1
          intro near
          exact outside ⟨begins, near⟩
        exact ⟨_, byRangeText_of_requested_far bounds far⟩
      · exact ⟨_, byRangeText_of_requested_none bounds (by omega)⟩
    refine ⟨⟨?_, ?_⟩, refused⟩
    · rintro ⟨accepted, -⟩
      apply Classical.byContradiction
      intro outside
      obtain ⟨refusal, failed⟩ := refused outside
      rw [failed] at accepted
      cases accepted
    · rintro ⟨begins, near⟩
      rw [byRangeText_of_requested bounds begins near]
      exact ⟨rfl, rfl⟩
  · intro source header noLimit noOffset said accepted
    have ranged : fromUnset source = _ := apply_of_range noLimit noOffset said
    rw [ranged] at accepted ⊢
    exact isRequest_of_accepted accepted

-- An empty window ends one position before its first.
theorem rendering_round_trip_empty :
    Window.Reachable ⟨some 5, some 0⟩ ∧
    (Window.requested ⟨some 5, some 0⟩ = "items=5-4" ∧
      (fromUnset (saying none (some " ") (some "items=5-4"))).window = ⟨some 5, some 0⟩) ∧
    (fromDefault (saying (some "0") (some "5") none) (some (.integer 25))).window =
      ⟨some 5, some 0⟩ := by
  have reachable : Window.Reachable ⟨some 5, some 0⟩ :=
    @Window.Reachable.made (some (.integer 5)) (some (.integer 0)) _ rfl
  have requested : Window.requested ⟨some 5, some 0⟩ = "items=5-4" := by decide
  have found := rendering_round_trip reachable rfl rfl
  have byPositions := found.2.1 (saying none (some " ") (some "items=5-4")) _ .unset rfl (by decide)
    (congrArg some requested.symm)
  have byNumerals := found.1 (saying (some "0") (some "5") none) _
    (.default (by decide : 0 ≤ (25 : Int)) (by decide)) rfl rfl
  exact ⟨reachable, ⟨requested, (byPositions.1.2 ⟨by decide, by decide⟩).2⟩, byNumerals.2⟩

end Negotiation

end PagedCatalogue

import PagedCatalogue.Proofs.Negotiation.Acceptance

namespace PagedCatalogue.Negotiation

open Text ItemRange

structure DecidedByRange (source : Source) (header : String) : Prop where
  noLimit : heard (source .limit) = none
  noOffset : heard (source .offset) = none
  said : heard (source .range) = some header

def KeepsLimit (source : Source) (w : Window) : Prop :=
  (∃ first, ReversedRange source first) ∧ w.limit.isSome

inductive Quotes (source : Source) : Event → Prop
  | parameters {cause : Option Fault}
      (spoken : (heard (source .limit)).isSome ∨ (heard (source .offset)).isSome)
      (ofValue : ∀ fault, cause = some fault → fault.ofValue = true) :
      Quotes source (.parametersRefused (source .limit) (source .offset) cause)
  | unreadable {header : String} (decided : DecidedByRange source header) :
      Quotes source (.rangeUnreadable header)
  | outOfBounds {header : String} (decided : DecidedByRange source header) :
      Quotes source (.rangeOutOfBounds header)
  | kept {header : String} (decided : DecidedByRange source header) :
      Quotes source (.limitKept header)

-- A reversed range is put on record before the missing limit is found, so that its refusal has a
-- record too. Only a number of too many digits fails without one, and that is no refusal.
inductive Recorded (source : Source) (w : Window) : Option Failure → List Event → Prop
  | quiet : Recorded source w none []
  | kept {event : Event} (keeps : KeepsLimit source w) (quotes : Quotes source event) :
      Recorded source w none [event]
  | refused {refusal : Refusal} {event : Event} (quotes : Quotes source event) :
      Recorded source w (some (.refused refusal)) [event]
  | overlong (count : Nat) : Recorded source w (some (.fault (.numeral (.tooManyDigits count)))) []

variable {w : Window} {source : Source} {header : String} {event : Event} {events : List Event}
  {failure : Option Failure}

/-! ## Every record is one of these -/

theorem recorded_of_parameters (hw : w.InBounds)
    (spoken : (heard (source .limit)).isSome ∨ (heard (source .offset)).isSome) :
    Recorded source w (byParameters w (source .limit) (source .offset)).failure
      (byParameters w (source .limit) (source .offset)).events := by
  by_cases accepted :
      (∃ l, LimitAfter w (source .limit) l) ∧ ∃ o, OffsetAfter (source .offset) o
  · obtain ⟨⟨l, hl⟩, o, ho⟩ := accepted
    rw [byParameters_of_accepted hw hl ho]
    exact .quiet
  · obtain ⟨w', cause, refused, -, ofValue, -⟩ := byParameters_of_not_accepted accepted
    rw [refused]
    exact .refused (.parameters spoken ofValue)

theorem recorded_of_range (hw : w.InBounds) (decided : DecidedByRange source header) :
    Recorded source w (byRangeText w header).failure (byRangeText w header).events := by
  cases rangeKind header with
  | unreadable foreign =>
    rw [byRangeText_of_unreadable foreign]
    exact .refused (.unreadable decided)
  | overlong long =>
    rw [byRangeText_of_overlong long]
    exact .overlong _
  | outside names misfit ordered =>
    rw [byRangeText_of_outside names misfit ordered]
    exact .refused (.outOfBounds decided)
  | span names fits =>
    rw [byRangeText_of_span names fits]
    exact .quiet
  | backwards names reversed =>
    cases limit : w.limit with
    | some n =>
      have limited : w.limit.isSome := by rw [limit]; rfl
      rw [byRangeText_of_backwards_limited hw limited names reversed]
      exact .kept ⟨⟨_, decided.noLimit, decided.noOffset, header, _, decided.said, names, reversed⟩,
        limited⟩ (.kept decided)
    | none =>
      rw [byRangeText_of_backwards_unlimited limit names reversed]
      exact .refused (.kept decided)

theorem recorded (hw : w.InBounds) (source : Source) :
    Recorded source w (apply source w).failure (apply source w).events := by
  cases sourceKind source with
  | parameters spoken =>
    rw [apply_of_parameters spoken]
    exact recorded_of_parameters hw spoken
  | range noLimit noOffset said =>
    rw [apply_of_range noLimit noOffset said]
    exact recorded_of_range hw ⟨noLimit, noOffset, said⟩
  | silence noLimit noOffset noRange =>
    rw [apply_of_silence noLimit noOffset noRange]
    exact .quiet

/-! ## What is read off a record -/

theorem Quotes.level_eq (h : Quotes source event) : event.level = .info := by
  cases h <;> rfl

theorem Recorded.quotes (h : Recorded source w failure events) (mem : event ∈ events) :
    Quotes source event := by
  cases h with
  | quiet => cases mem
  | kept keeps quotes =>
    rw [List.mem_singleton.1 mem]
    exact quotes
  | refused quotes =>
    rw [List.mem_singleton.1 mem]
    exact quotes
  | overlong count => cases mem

theorem Recorded.length_le (h : Recorded source w failure events) : events.length ≤ 1 := by
  cases h with
  | quiet => exact Nat.zero_le 1
  | kept keeps quotes => exact Nat.le_refl 1
  | refused quotes => exact Nat.le_refl 1
  | overlong count => exact Nat.zero_le 1

theorem apply_of_keepsLimit (hw : w.InBounds) (keeps : KeepsLimit source w) :
    (apply source w).failure = none ∧ ∃ header, (apply source w).events = [.limitKept header] := by
  obtain ⟨⟨first, noLimit, noOffset, header, last, said, names, reversed⟩, limited⟩ := keeps
  rw [apply_of_range noLimit noOffset said,
    byRangeText_of_backwards_limited hw limited names reversed]
  exact ⟨rfl, header, rfl⟩

theorem refusals_recorded_once (reachable : w.Reachable) (source : Source) :
    (apply source w).events.length ≤ 1 ∧
    (∀ event ∈ (apply source w).events, event.level = .info) ∧
    (∀ refusal, (apply source w).failure = some (.refused refusal) →
      (apply source w).events.length = 1) ∧
    (KeepsLimit source w →
      (apply source w).failure = none ∧ (apply source w).events.length = 1) ∧
    ((apply source w).failure = none → ¬KeepsLimit source w → (apply source w).events = []) := by
  have hw := reachable.inBounds
  have record := recorded hw source
  refine ⟨record.length_le, fun event mem => (record.quotes mem).level_eq, ?_, ?_, ?_⟩
  · intro refusal failed
    rw [failed] at record
    generalize (apply source w).events = events at record
    cases record with
    | refused quotes => rfl
  · intro keeps
    obtain ⟨accepted, header, events⟩ := apply_of_keepsLimit hw keeps
    rw [events]
    exact ⟨accepted, rfl⟩
  · intro accepted unkept
    rw [accepted] at record
    generalize (apply source w).events = events at record
    cases record with
    | quiet => rfl
    | kept keeps quotes => exact absurd keeps unkept

-- The same range is refused where there is no limit to keep.
theorem refusals_recorded_once_reversed :
    Window.Reachable .unset ∧
    (apply (saying none none (some "items=50-10")) .unset).failure =
      some (.refused (.rangeOutOfBounds "items=50-10")) ∧
    (apply (saying none none (some "items=50-10")) .unset).events.length = 1 ∧
    Window.Reachable ⟨some 0, some 25⟩ ∧
    (apply (saying none none (some "items=50-10")) ⟨some 0, some 25⟩).failure = none ∧
    (apply (saying none none (some "items=50-10")) ⟨some 0, some 25⟩).events.length = 1 := by
  have unset : Window.Reachable .unset := @Window.Reachable.made none none _ rfl
  have limited : Window.Reachable ⟨some 0, some 25⟩ :=
    @Window.Reachable.made (some (.integer 0)) (some (.integer 25)) _ rfl
  have failed : (apply (saying none none (some "items=50-10")) .unset).failure =
      some (.refused (.rangeOutOfBounds "items=50-10")) := by
    decide
  have keeps : KeepsLimit (saying none none (some "items=50-10")) ⟨some 0, some 25⟩ :=
    ⟨⟨50, rfl, rfl, "items=50-10", 10, rfl,
      ⟨['5', '0'], ['1', '0'], ⟨rfl, rfl, rfl⟩, by decide, by decide, rfl, rfl⟩,
      by decide, by decide, by decide⟩, rfl⟩
  obtain ⟨-, -, refused, -⟩ := refusals_recorded_once unset (saying none none (some "items=50-10"))
  obtain ⟨-, -, -, kept, -⟩ :=
    refusals_recorded_once limited (saying none none (some "items=50-10"))
  exact ⟨unset, failed, refused _ failed, limited, kept keeps⟩

end PagedCatalogue.Negotiation

import PagedCatalogue.Proofs.Negotiation.Acceptance

namespace PagedCatalogue.Negotiation

open Text ItemRange

variable {w : Window} {source : Source} {d : Int}

/-- Nothing fails, or it is refused, and what is behind the refusal is a fault of a value. -/
def Answerable (failure : Option Failure) : Prop :=
  failure = none ∨ ∃ refusal, failure = some (.refused refusal) ∧
    ∀ fault, refusal.cause = some fault → fault.ofValue = true

/-- A range decides, and the first of its numbers that has too many digits has so many. -/
def OverlongRange (source : Source) (count : Nat) : Prop :=
  heard (source .limit) = none ∧ heard (source .offset) = none ∧
    ∃ header, heard (source .range) = some header ∧ Overlong header count

theorem seed_inBounds (low : 0 ≤ d) (high : d ≤ maxLimit) :
    Window.InBounds ⟨some 0, some d⟩ :=
  (Window.unset_inBounds.withOffset (by decide) (by decide)).withLimit low high

theorem fromDefault_eq (low : 0 ≤ d) (high : d ≤ maxLimit) :
    fromDefault source (some (.integer d)) = apply source ⟨some 0, some d⟩ := by
  simp only [fromDefault, Window.make_of_inBounds (seed_inBounds low high)]

/-! ## Failures -/

theorem apply_of_overlong {count : Nat} (long : OverlongRange source count) :
    (apply source w).failure = some (.fault (.numeral (.tooManyDigits count))) := by
  obtain ⟨noLimit, noOffset, header, said, long⟩ := long
  rw [apply_of_range noLimit noOffset said, byRangeText_of_overlong long]

theorem byParameters_answerable (hw : w.InBounds) (limit offset : Option String) :
    Answerable (byParameters w limit offset).failure := by
  by_cases accepted : (∃ l, LimitAfter w limit l) ∧ ∃ o, OffsetAfter offset o
  · obtain ⟨⟨l, hl⟩, o, ho⟩ := accepted
    rw [byParameters_of_accepted hw hl ho]
    exact Or.inl rfl
  · obtain ⟨w', cause, refused, -, ofValue, -⟩ := byParameters_of_not_accepted accepted
    rw [refused]
    exact Or.inr ⟨_, rfl, ofValue⟩

theorem byRangeText_answerable (w : Window) (header : String)
    (short : ¬∃ count, Overlong header count) : Answerable (byRangeText w header).failure := by
  cases rangeKind header with
  | unreadable foreign =>
    rw [byRangeText_of_unreadable foreign]
    exact Or.inr ⟨_, rfl, nofun⟩
  | overlong long => exact absurd ⟨_, long⟩ short
  | outside names misfit ordered =>
    rw [byRangeText_of_outside names misfit ordered]
    exact Or.inr ⟨_, rfl, nofun⟩
  | span names fits =>
    rw [byRangeText_of_span names fits]
    exact Or.inl rfl
  | backwards names reversed =>
    rw [byRangeText_of_backwards names reversed]
    simp only [settle]
    split
    · exact Or.inl rfl
    · exact Or.inr ⟨_, rfl, nofun⟩

theorem apply_answerable (hw : w.InBounds) (short : ¬∃ count, OverlongRange source count) :
    Answerable (apply source w).failure := by
  cases sourceKind source with
  | parameters spoken =>
    rw [apply_of_parameters spoken]
    exact byParameters_answerable hw _ _
  | range noLimit noOffset said =>
    rw [apply_of_range noLimit noOffset said]
    apply byRangeText_answerable
    rintro ⟨count, long⟩
    exact short ⟨count, noLimit, noOffset, _, said, long⟩
  | silence noLimit noOffset noRange =>
    rw [apply_of_silence noLimit noOffset noRange]
    exact Or.inl rfl

def upTo (ds : List Char) : String := String.ofList ("items=0-".toList ++ ds)

theorem toList_upTo (ds : List Char) : (upTo ds).toList = "items=0-".toList ++ ds :=
  String.toList_ofList

theorem blank_upTo (ds : List Char) : blank (upTo ds) = false := by
  unfold blank
  rw [toList_upTo, List.all_append, Bool.and_eq_false_iff]
  exact Or.inl (by decide)

theorem overlongRange_upTo {ds : List Char} (digits : Decimal.isDigits ds = true)
    (long : Decimal.maxDigits < ds.length) :
    OverlongRange (saying none none (some (upTo ds))) ds.length :=
  ⟨rfl, rfl, upTo ds, heard_eq_some.2 ⟨rfl, blank_upTo ds⟩, ['0'], ds,
    ⟨(toList_upTo ds).trans rfl, rfl, digits⟩, Or.inr ⟨by decide, long, rfl⟩⟩

theorem isDigits_nines (n : Nat) : Decimal.isDigits (List.replicate (n + 1) '9') = true := by
  simp only [Decimal.isDigits, List.replicate_succ, List.isEmpty_cons, List.all_cons,
    List.all_replicate]
  cases n <;> rfl

theorem entry_answerable_unless_overlong (low : 0 ≤ d) (high : d ≤ maxLimit)
    {outcome : Outcome}
    (entry : outcome = fromDefault source (some (.integer d)) ∨ outcome = fromUnset source) :
    (Answerable outcome.failure ↔ ¬∃ count, OverlongRange source count) ∧
    (∀ count, OverlongRange source count →
      outcome.failure = some (.fault (.numeral (.tooManyDigits count)))) ∧
    ∀ header first last, heard (source .limit) = none → heard (source .offset) = none →
      heard (source .range) = some header → Names header first last →
      maxOffset < first ∨ maxOffset < last ∨ maxLimit < last - first + 1 →
      outcome.failure = some (.refused (.rangeOutOfBounds header)) := by
  have start : ∃ w : Window, w.InBounds ∧ outcome = apply source w := by
    rcases entry with rfl | rfl
    · exact ⟨_, seed_inBounds low high, fromDefault_eq low high⟩
    · exact ⟨_, Window.unset_inBounds, rfl⟩
  obtain ⟨w, hw, rfl⟩ := start
  refine ⟨⟨?_, apply_answerable hw⟩, fun _ => apply_of_overlong, ?_⟩
  · rintro answerable ⟨count, long⟩
    rw [apply_of_overlong long] at answerable
    rcases answerable with none | ⟨refusal, refused, -⟩
    · cases none
    · cases refused
  · intro header first last noLimit noOffset said names far
    have misfit : ¬Fits first last := by
      rintro ⟨nearFirst, nearLast, -, short⟩
      omega
    have ordered : ¬Reversed first last := by
      rintro ⟨nearFirst, nearLast, backwards⟩
      simp only [maxLimit] at far
      omega
    rw [apply_of_range noLimit noOffset said, byRangeText_of_outside names misfit ordered]

theorem entry_answerable_longest_span :
    0 ≤ (25 : Int) ∧ (25 : Int) ≤ maxLimit ∧
    (fromDefault (saying none none (some "items=0-2147483647")) (some (.integer 25))).failure =
      some (.refused (.rangeOutOfBounds "items=0-2147483647")) := by
  have names : Names "items=0-2147483647" 0 2147483647 :=
    ⟨['0'], "2147483647".toList, ⟨rfl, rfl, rfl⟩, by decide, by decide, rfl, rfl⟩
  have answer := entry_answerable_unless_overlong (by decide) (by decide)
    (Or.inl rfl : fromDefault (saying none none (some "items=0-2147483647"))
      (some (.integer 25)) = _ ∨ _)
  exact ⟨by decide, by decide,
    answer.2.2 "items=0-2147483647" 0 2147483647 rfl rfl rfl names (by decide)⟩

theorem overlong_range_not_answerable :
    ¬Answerable (fromUnset (saying none none (some (upTo (List.replicate 4301 '9'))))).failure ∧
    ¬Answerable (fromDefault (saying none none (some (upTo (List.replicate 4301 '9'))))
      (some (.integer 25))).failure := by
  have long := overlongRange_upTo (isDigits_nines 4300) (by rw [List.length_replicate]; decide)
  have escapes (w : Window) : ¬Answerable
      (apply (saying none none (some (upTo (List.replicate 4301 '9')))) w).failure := by
    rw [apply_of_overlong long]
    rintro (none | ⟨refusal, refused, -⟩)
    · cases none
    · cases refused
  exact ⟨escapes _, by rw [fromDefault_eq (by decide) (by decide)]; exact escapes _⟩

/-! ## Agreement -/

inductive Comparison (source : Source) (plain seeded : Outcome) : Prop
  | silence (noLimit : heard (source .limit) = none) (noOffset : heard (source .offset) = none)
      (noRange : heard (source .range) = none)
  | accepted (plainly : plain.failure = none) (likewise : seeded.failure = none)
      (window : seeded.window = plain.window)
  | refused (failed : plain.failure ≠ none) (failure : seeded.failure = plain.failure)
      (events : seeded.events = plain.events)
  | offset {n : Int} (alone : OffsetAlone source n)
  | reversed {first : Int} (range : ReversedRange source first)

theorem comparison_of_parameters (hd : Window.InBounds ⟨some 0, some d⟩)
    (spoken : (heard (source .limit)).isSome ∨ (heard (source .offset)).isSome) :
    Comparison source (apply source .unset) (apply source ⟨some 0, some d⟩) := by
  rw [apply_of_parameters spoken, apply_of_parameters spoken]
  cases hl : reading .limit (source .limit) with
  | error fault =>
    rw [byParameters_of_limit_rejected hl, byParameters_of_limit_rejected hl]
    exact .refused nofun rfl rfl
  | ok l =>
    cases ho : reading .offset (source .offset) with
    | error fault =>
      rw [byParameters_of_offset_rejected hl ho, byParameters_of_offset_rejected hl ho]
      exact .refused nofun rfl rfl
    | ok o =>
      cases l with
      | some n =>
        rw [byParameters_of_complete Window.unset_inBounds hl ho rfl,
          byParameters_of_complete hd hl ho rfl]
        exact .accepted rfl rfl rfl
      | none =>
        have noLimit := reading_eq_none.1 hl
        cases o with
        | some n => exact .offset ⟨noLimit, reading_eq_some.1 ho⟩
        | none =>
          rw [noLimit, reading_eq_none.1 ho] at spoken
          simp at spoken

theorem comparison_of_range {header : String} (noLimit : heard (source .limit) = none)
    (noOffset : heard (source .offset) = none) (said : heard (source .range) = some header) :
    Comparison source (apply source .unset) (apply source ⟨some 0, some d⟩) := by
  rw [apply_of_range noLimit noOffset said, apply_of_range noLimit noOffset said]
  cases rangeKind header with
  | unreadable foreign =>
    rw [byRangeText_of_unreadable foreign, byRangeText_of_unreadable foreign]
    exact .refused nofun rfl rfl
  | overlong long =>
    rw [byRangeText_of_overlong long, byRangeText_of_overlong long]
    exact .refused nofun rfl rfl
  | outside names misfit ordered =>
    rw [byRangeText_of_outside names misfit ordered, byRangeText_of_outside names misfit ordered]
    exact .refused nofun rfl rfl
  | span names fits =>
    rw [byRangeText_of_span names fits, byRangeText_of_span names fits]
    exact .accepted rfl rfl rfl
  | backwards names reversed =>
    exact .reversed ⟨noLimit, noOffset, header, _, said, names, reversed⟩

theorem comparison (hd : Window.InBounds ⟨some 0, some d⟩) (source : Source) :
    Comparison source (apply source .unset) (apply source ⟨some 0, some d⟩) := by
  cases sourceKind source with
  | parameters spoken => exact comparison_of_parameters hd spoken
  | range noLimit noOffset said => exact comparison_of_range noLimit noOffset said
  | silence noLimit noOffset noRange => exact .silence noLimit noOffset noRange

theorem apply_of_offset_alone (hd : Window.InBounds ⟨some 0, some d⟩) {n : Int}
    (alone : OffsetAlone source n) :
    (apply source .unset).failure ≠ none ∧
      (apply source ⟨some 0, some d⟩).failure = none ∧
      (apply source ⟨some 0, some d⟩).window = ⟨some n, some d⟩ := by
  obtain ⟨noLimit, gives⟩ := alone
  have spoken : (heard (source .limit)).isSome ∨ (heard (source .offset)).isSome :=
    Or.inr (Option.isSome_iff_ne_none.2 gives.heard_ne_none)
  have hl : reading .limit (source .limit) = .ok none := reading_eq_none.2 noLimit
  have ho := reading_eq_some.2 gives
  rw [apply_of_parameters spoken, apply_of_parameters spoken,
    byParameters_of_no_limit hl ho rfl, byParameters_of_complete hd hl ho rfl]
  exact ⟨nofun, rfl, rfl⟩

theorem apply_of_reversed_range (hd : Window.InBounds ⟨some 0, some d⟩) {first : Int}
    (range : ReversedRange source first) :
    (apply source .unset).failure ≠ none ∧
      (apply source ⟨some 0, some d⟩).failure = none ∧
      (apply source ⟨some 0, some d⟩).window = ⟨some first, some d⟩ := by
  obtain ⟨noLimit, noOffset, header, last, said, names, reversed⟩ := range
  rw [apply_of_range noLimit noOffset said, apply_of_range noLimit noOffset said,
    byRangeText_of_backwards_unlimited rfl names reversed,
    byRangeText_of_backwards_limited hd rfl names reversed]
  exact ⟨nofun, rfl, rfl⟩

theorem asked_eq (source : Source) (w w' : Window) :
    (apply source w).asked = (apply source w').asked := by
  cases sourceKind source with
  | parameters spoken => rw [apply_of_parameters spoken, apply_of_parameters spoken]
  | range noLimit noOffset said =>
    rw [apply_of_range noLimit noOffset said, apply_of_range noLimit noOffset said]
  | silence noLimit noOffset noRange =>
    rw [apply_of_silence noLimit noOffset noRange, apply_of_silence noLimit noOffset noRange]

theorem entries_agree_but_for_limit (low : 0 ≤ d) (high : d ≤ maxLimit) {plain seeded : Outcome}
    (fromNothing : plain = fromUnset source)
    (fromLimit : seeded = fromDefault source (some (.integer d))) :
    (heard (source .limit) = none → heard (source .offset) = none →
      heard (source .range) = none →
      (plain.failure = none ∧ plain.window = .unset) ∧
      seeded.failure = none ∧ seeded.window = ⟨some 0, some d⟩) ∧
    ((heard (source .limit)).isSome ∨ (heard (source .offset)).isSome ∨
        (heard (source .range)).isSome → plain.failure = none →
      seeded.failure = none ∧ seeded.window = plain.window) ∧
    (plain.failure ≠ none →
      (seeded.failure = plain.failure ∧ seeded.events = plain.events) ∨
      (∃ n, OffsetAlone source n) ∨ ∃ first, ReversedRange source first) ∧
    (∀ n, OffsetAlone source n → plain.failure ≠ none ∧
      seeded.failure = none ∧ seeded.window = ⟨some n, some d⟩) ∧
    (∀ first, ReversedRange source first → plain.failure ≠ none ∧
      seeded.failure = none ∧ seeded.window = ⟨some first, some d⟩) ∧
    seeded.asked = plain.asked := by
  have hd := seed_inBounds low high
  have compared := comparison hd source
  rw [fromDefault_eq low high] at fromLimit
  change plain = apply source .unset at fromNothing
  rw [← fromNothing, ← fromLimit] at compared
  refine ⟨?_, ?_, ?_, ?_, ?_, by rw [fromLimit, fromNothing, asked_eq]⟩
  · intro noLimit noOffset noRange
    rw [fromNothing, fromLimit, apply_of_silence noLimit noOffset noRange,
      apply_of_silence noLimit noOffset noRange]
    exact ⟨⟨rfl, rfl⟩, rfl, rfl⟩
  · intro spoken accepted
    cases compared with
    | silence noLimit noOffset noRange =>
      rw [noLimit, noOffset, noRange] at spoken
      simp at spoken
    | accepted plainly likewise window => exact ⟨likewise, window⟩
    | refused failed failure events => exact absurd accepted failed
    | offset alone =>
      rw [fromNothing] at accepted
      exact absurd accepted (apply_of_offset_alone hd alone).1
    | reversed range =>
      rw [fromNothing] at accepted
      exact absurd accepted (apply_of_reversed_range hd range).1
  · intro failed
    cases compared with
    | silence noLimit noOffset noRange =>
      rw [fromNothing, apply_of_silence noLimit noOffset noRange] at failed
      exact absurd rfl failed
    | accepted plainly likewise window => exact absurd plainly failed
    | refused failed failure events => exact Or.inl ⟨failure, events⟩
    | offset alone => exact Or.inr (Or.inl ⟨_, alone⟩)
    | reversed range => exact Or.inr (Or.inr ⟨_, range⟩)
  · intro n alone
    rw [fromNothing, fromLimit]
    exact apply_of_offset_alone hd alone
  · intro first range
    rw [fromNothing, fromLimit]
    exact apply_of_reversed_range hd range

theorem entries_agree_reversed :
    0 ≤ (25 : Int) ∧ (25 : Int) ≤ maxLimit ∧
    (fromUnset (saying none none (some "items=50-10"))).failure ≠ none ∧
    (fromDefault (saying none none (some "items=50-10")) (some (.integer 25))).window =
      ⟨some 50, some 25⟩ := by
  have range : ReversedRange (saying none none (some "items=50-10")) 50 :=
    ⟨rfl, rfl, "items=50-10", 10, rfl,
      ⟨['5', '0'], ['1', '0'], ⟨rfl, rfl, rfl⟩, by decide, by decide, rfl, rfl⟩,
      by decide, by decide, by decide⟩
  have agree := entries_agree_but_for_limit (by decide) (by decide)
    (rfl : fromUnset (saying none none (some "items=50-10")) = _)
    (rfl : fromDefault (saying none none (some "items=50-10")) (some (.integer 25)) = _)
  have kept := agree.2.2.2.2.1 50 range
  exact ⟨by decide, by decide, kept.1, kept.2.2⟩

end PagedCatalogue.Negotiation

import PagedCatalogue.Proofs.Negotiation.Reachable

namespace PagedCatalogue.Negotiation

open Text ItemRange

variable {w : Window} {field : Field} {said limit offset : Option String}

/-! ## Limit and offset -/

-- Where no limit is said, the old one stays.
def LimitAfter (w : Window) (said : Option String) (n : Int) : Prop :=
  heard said = none ∧ w.limit = some n ∨ Gives .limit said n

-- Where no offset is said, it becomes zero, whatever it was before.
def OffsetAfter (said : Option String) (n : Int) : Prop :=
  heard said = none ∧ n = 0 ∨ Gives .offset said n

theorem not_rejected_of_ok {n : Option Int} (h : reading field said = .ok n) :
    ¬Rejected field said := by
  rintro ⟨spoken, none⟩
  cases n with
  | none =>
    rw [reading_eq_none.1 h] at spoken
    cases spoken
  | some n => exact none ⟨n, reading_eq_some.1 h⟩

theorem limitAfter_iff {n : Int} :
    LimitAfter w said n ↔ ∃ l, reading .limit said = .ok l ∧ l.or w.limit = some n := by
  constructor
  · rintro (⟨silent, old⟩ | gives)
    · exact ⟨none, reading_eq_none.2 silent, old⟩
    · exact ⟨some n, reading_eq_some.2 gives, rfl⟩
  · rintro ⟨l, read, known⟩
    cases l with
    | none => exact Or.inl ⟨reading_eq_none.1 read, known⟩
    | some m =>
      cases known
      exact Or.inr (reading_eq_some.1 read)

theorem offsetAfter_iff {n : Int} :
    OffsetAfter said n ↔ ∃ o, reading .offset said = .ok o ∧ o.getD 0 = n := by
  constructor
  · rintro (⟨silent, rfl⟩ | gives)
    · exact ⟨none, reading_eq_none.2 silent, rfl⟩
    · exact ⟨some n, reading_eq_some.2 gives, rfl⟩
  · rintro ⟨o, read, rfl⟩
    cases o with
    | none => exact Or.inl ⟨reading_eq_none.1 read, rfl⟩
    | some m => exact Or.inr (reading_eq_some.1 read)

theorem byParameters_of_accepted (hw : w.InBounds) {l o : Int} (hl : LimitAfter w limit l)
    (ho : OffsetAfter offset o) :
    byParameters w limit offset = ⟨⟨some o, some l⟩, none, []⟩ := by
  obtain ⟨_, readLimit, known⟩ := limitAfter_iff.1 hl
  obtain ⟨_, readOffset, rfl⟩ := offsetAfter_iff.1 ho
  exact byParameters_of_complete hw readLimit readOffset known

theorem byParameters_of_not_accepted
    (h : ¬((∃ l, LimitAfter w limit l) ∧ ∃ o, OffsetAfter offset o)) :
    ∃ w' cause, byParameters w limit offset = refuseParameters w' limit offset cause ∧
      (cause.isSome ↔ Rejected .limit limit ∨ Rejected .offset offset) ∧
      (∀ fault, cause = some fault → fault.ofValue = true) ∧
      (cause = none → heard limit = none ∧ w.limit = none) := by
  cases readLimit : reading .limit limit with
  | error fault =>
    obtain ⟨rejected, ofValue⟩ := reading_eq_error readLimit
    refine ⟨w, some fault, byParameters_of_limit_rejected readLimit, ?_, ?_, nofun⟩
    · simp only [Option.isSome_some, rejected, true_or]
    · rintro _ ⟨⟩
      exact ofValue
  | ok l =>
    cases readOffset : reading .offset offset with
    | error fault =>
      obtain ⟨rejected, ofValue⟩ := reading_eq_error readOffset
      refine ⟨_, some fault, byParameters_of_offset_rejected readLimit readOffset, ?_, ?_, nofun⟩
      · simp only [Option.isSome_some, rejected, or_true]
      · rintro _ ⟨⟩
        exact ofValue
    | ok o =>
      have unknown : l.or w.limit = none := by
        cases known : l.or w.limit with
        | none => rfl
        | some n =>
          exact absurd ⟨⟨n, limitAfter_iff.2 ⟨l, readLimit, known⟩⟩,
            _, offsetAfter_iff.2 ⟨o, readOffset, rfl⟩⟩ h
      obtain ⟨rfl, unlimited⟩ := Option.or_eq_none_iff.1 unknown
      refine ⟨_, none, byParameters_of_no_limit readLimit readOffset unlimited, ?_, nofun, ?_⟩
      · simp only [Option.isSome_none, Bool.false_eq_true, not_rejected_of_ok readLimit,
          not_rejected_of_ok readOffset, or_self]
      · exact fun _ => ⟨reading_eq_none.1 readLimit, unlimited⟩

theorem parameters_accepted_exactly {source : Source} (reachable : w.Reachable)
    (spoken : (heard (source .limit)).isSome ∨ (heard (source .offset)).isSome) :
    (apply source w).asked = [.limit, .offset] ∧
    (∀ other : Source, other .limit = source .limit → other .offset = source .offset →
      apply other w = apply source w) ∧
    ((apply source w).failure = none ↔
      (∃ l, LimitAfter w (source .limit) l) ∧ ∃ o, OffsetAfter (source .offset) o) ∧
    (∀ l o, LimitAfter w (source .limit) l → OffsetAfter (source .offset) o →
      (apply source w).window = ⟨some o, some l⟩) ∧
    ∀ failure, (apply source w).failure = some failure →
      failure.message = "Invalid 'limit' and 'offset' parameters: limit=" ++
        (source .limit).getD "None" ++ " offset=" ++ (source .offset).getD "None" ∧
      ∃ cause, failure = .refused (.badParameters (source .limit) (source .offset) cause) ∧
        (cause.isSome ↔
          Rejected .limit (source .limit) ∨ Rejected .offset (source .offset)) ∧
        (∀ fault, cause = some fault → fault.ofValue = true) ∧
        (cause = none → heard (source .limit) = none ∧ w.limit = none) := by
  have hw := reachable.inBounds
  refine ⟨by rw [apply_of_parameters spoken], ?_, ?_, ?_, ?_⟩
  · intro other hl ho
    rw [apply_of_parameters spoken, apply_of_parameters (by rwa [hl, ho]), hl, ho]
  · rw [apply_of_parameters spoken]
    constructor
    · intro accepted
      apply Classical.byContradiction
      intro h
      obtain ⟨w', cause, refused, -⟩ := byParameters_of_not_accepted h
      rw [refused] at accepted
      cases accepted
    · rintro ⟨⟨l, hl⟩, o, ho⟩
      rw [byParameters_of_accepted hw hl ho]
  · intro l o hl ho
    rw [apply_of_parameters spoken, byParameters_of_accepted hw hl ho]
  · intro failure failed
    rw [apply_of_parameters spoken] at failed
    have h : ¬((∃ l, LimitAfter w (source .limit) l) ∧ ∃ o, OffsetAfter (source .offset) o) := by
      rintro ⟨⟨l, hl⟩, o, ho⟩
      rw [byParameters_of_accepted hw hl ho] at failed
      cases failed
    obtain ⟨w', cause, refused, rest⟩ := byParameters_of_not_accepted h
    rw [refused] at failed
    cases failed
    exact ⟨rfl, cause, rfl, rest⟩

theorem parameters_accepted_limit_alone :
    Window.Reachable ⟨some 7, some 25⟩ ∧
    (apply (saying (some "+10") (some " ") (some "items=7-7")) ⟨some 7, some 25⟩).failure = none ∧
    (apply (saying (some "+10") (some " ") (some "items=7-7")) ⟨some 7, some 25⟩).window =
      ⟨some 0, some 10⟩ := by
  have reachable : Window.Reachable ⟨some 7, some 25⟩ :=
    @Window.Reachable.made (some (.integer 7)) (some (.integer 25)) _ rfl
  have limit : LimitAfter ⟨some 7, some 25⟩ (some "+10") 10 :=
    Or.inr ⟨"+10", rfl, Decimal.read_eq_ok.1 rfl, by decide, by decide⟩
  have offset : OffsetAfter (some " ") 0 := Or.inl ⟨by decide, rfl⟩
  have spoken : (heard (saying (some "+10") (some " ") (some "items=7-7") .limit)).isSome ∨
      (heard (saying (some "+10") (some " ") (some "items=7-7") .offset)).isSome := Or.inl rfl
  have accepted := parameters_accepted_exactly reachable spoken
  exact ⟨reachable, accepted.2.2.1.2 ⟨⟨10, limit⟩, 0, offset⟩,
    accepted.2.2.2.1 10 0 limit offset⟩

/-! ## Range -/

theorem byRangeText_unreadable_iff {header : String} :
    (byRangeText w header).failure = some (.refused (.unreadableRange header)) ↔
      ¬∃ ds ds', IsRequest header ds ds' := by
  constructor
  · intro refused
    cases rangeKind header with
    | unreadable foreign => exact foreign
    | overlong long =>
      rw [byRangeText_of_overlong long] at refused
      cases refused
    | outside names misfit ordered =>
      rw [byRangeText_of_outside names misfit ordered] at refused
      cases refused
    | span names fits =>
      rw [byRangeText_of_span names fits] at refused
      cases refused
    | backwards names reversed =>
      rw [byRangeText_of_backwards names reversed] at refused
      simp only [settle] at refused
      split at refused <;> cases refused
  · intro foreign
    rw [byRangeText_of_unreadable foreign]

theorem byRangeText_of_misfit {header : String} {first last : Int}
    (names : Names header first last) (misfit : ¬Fits first last)
    (unkept : ¬(Reversed first last ∧ w.limit.isSome)) :
    (byRangeText w header).failure = some (.refused (.rangeOutOfBounds header)) := by
  by_cases reversed : Reversed first last
  · have unlimited : w.limit = none := by
      cases limit : w.limit with
      | none => rfl
      | some n => exact absurd ⟨reversed, by rw [limit]; rfl⟩ unkept
    rw [byRangeText_of_backwards_unlimited unlimited names reversed]
  · rw [byRangeText_of_outside names misfit reversed]

theorem Reversed.limit_ne {first last : Int} (reversed : Reversed first last)
    (hw : w.InBounds) : w.limit ≠ some (last - first + 1) := by
  intro limit
  have low := (hw.limit _ limit).1
  have backwards := reversed.backwards
  omega

-- A window may by chance have the limit that a range asks for, and then keeping it and setting it
-- come to the same. The inequality in the second equivalence tells the two apart.
theorem range_accepted_exactly {source : Source} {header : String} (reachable : w.Reachable)
    (noLimit : heard (source .limit) = none) (noOffset : heard (source .offset) = none)
    (said : heard (source .range) = some header) :
    ((apply source w).failure = some (.refused (.unreadableRange header)) ∧
      (apply source w).window = w ↔ ¬∃ ds ds', IsRequest header ds ds') ∧
    (∀ first last, Names header first last →
      ((apply source w).failure = none ∧
        (apply source w).window = ⟨some first, some (last - first + 1)⟩ ↔ Fits first last) ∧
      ((apply source w).failure = none ∧
        (apply source w).window = { w with offset := some first } ∧
        w.limit ≠ some (last - first + 1) ↔ Reversed first last ∧ w.limit.isSome) ∧
      (¬Fits first last → ¬(Reversed first last ∧ w.limit.isSome) →
        (apply source w).failure = some (.refused (.rangeOutOfBounds header))) ∧
      (Fits first last ∨ Reversed first last →
        w.setOffset (.integer first) = .ok { w with offset := some first }) ∧
      (Fits first last → Window.setLast { w with offset := some first } (.integer last) =
        .ok ⟨some first, some (last - first + 1)⟩)) ∧
    (Refusal.unreadableRange header).message =
      "Unparseable 'Range' header.  Expecting items=[start]-[end] was: " ++ header ∧
    (Refusal.rangeOutOfBounds header).message =
      "Invalid 'Range' header.  Expecting 'items=[start]-[end]'  was: " ++ header := by
  have hw := reachable.inBounds
  rw [apply_of_range noLimit noOffset said]
  refine ⟨?_, ?_, rfl, rfl⟩
  · rw [byRangeText_unreadable_iff]
    refine and_iff_left_of_imp ?_
    intro foreign
    rw [byRangeText_of_unreadable foreign]
  intro first last names
  refine ⟨⟨?_, ?_⟩, ⟨?_, ?_⟩, byRangeText_of_misfit names, ?_, setLast_of_fits⟩
  · rintro ⟨accepted, placed⟩
    apply Classical.byContradiction
    intro misfit
    by_cases kept : Reversed first last ∧ w.limit.isSome
    · rw [byRangeText_of_backwards_limited hw kept.2 names kept.1] at placed
      exact kept.1.limit_ne hw (congrArg Window.limit placed)
    · rw [byRangeText_of_misfit names misfit kept] at accepted
      cases accepted
  · intro fits
    rw [byRangeText_of_span names fits]
    exact ⟨rfl, rfl⟩
  · rintro ⟨accepted, kept, other⟩
    apply Classical.byContradiction
    intro unkept
    by_cases fits : Fits first last
    · rw [byRangeText_of_span names fits] at kept
      exact other (congrArg Window.limit kept).symm
    · rw [byRangeText_of_misfit names fits unkept] at accepted
      cases accepted
  · rintro ⟨reversed, limited⟩
    rw [byRangeText_of_backwards_limited hw limited names reversed]
    exact ⟨rfl, rfl, reversed.limit_ne hw⟩
  · rintro (fits | reversed)
    · exact setOffset_of_near names.nonneg.1 fits.nearFirst
    · exact setOffset_of_near names.nonneg.1 reversed.nearFirst

theorem range_accepted_empty :
    Window.Reachable .unset ∧
    (apply (saying none (some "") (some "items=007-6")) .unset).failure = none ∧
    (apply (saying none (some "") (some "items=007-6")) .unset).window = ⟨some 7, some 0⟩ := by
  have reachable : Window.Reachable .unset := @Window.Reachable.made none none _ rfl
  have names : Names "items=007-6" 7 6 :=
    ⟨['0', '0', '7'], ['6'], ⟨rfl, rfl, rfl⟩, by decide, by decide, rfl, rfl⟩
  have fits : Fits 7 6 := ⟨by decide, by decide, by decide, by decide⟩
  have accepted := range_accepted_exactly reachable rfl (by decide)
    (rfl : heard (saying none (some "") (some "items=007-6") .range) = some "items=007-6")
  exact ⟨reachable, (accepted.2.1 7 6 names).1.2 fits⟩

end PagedCatalogue.Negotiation

import PagedCatalogue.Proofs.Negotiation.Run

namespace PagedCatalogue.Window

variable {w w' : Window} {value : Argument} {fault : Fault} {offset n : Int}

-- The offset is asked for first, then the kind of the value, and only then the limit that it makes.
inductive LastRefused (w : Window) : Argument → Fault → Prop
  | noOffset {value : Argument} (unset : w.offset = none) : LastRefused w value .offsetUnset
  | noInteger {offset : Int} {kind : Kind} (known : w.offset = some offset) :
      LastRefused w (.foreign kind) (.notInteger .last kind)
  | before {offset n : Int} (known : w.offset = some offset) (low : n < offset - 1) :
      LastRefused w (.integer n) (.negative .limit)
  | beyond {offset n : Int} (known : w.offset = some offset) (high : offset + maxLimit - 1 < n) :
      LastRefused w (.integer n) (.tooLarge .limit)

/-- The position ahead of the offset is the last one of an empty window. -/
def InReach (w : Window) (n : Int) : Prop :=
  ∃ offset, w.offset = some offset ∧ offset - 1 ≤ n ∧ n ≤ offset + maxLimit - 1

structure EndsAt (w : Window) (n : Int) (w' : Window) : Prop where
  offset : w'.offset = w.offset
  limit : w'.limit = some (n - w.first + 1)
  valid : w'.isValid = true
  last : w'.last = n

/-! ## What is refused -/

theorem first_of_offset (known : w.offset = some offset) : w.first = offset := by
  simp [first, known]

theorem setLast_of_unset (unset : w.offset = none) : w.setLast value = .error .offsetUnset := by
  simp [setLast, unset]

theorem setLast_of_foreign {kind : Kind} (known : w.offset = some offset) :
    w.setLast (.foreign kind) = .error (.notInteger .last kind) := by
  simp [setLast, known]

theorem setLast_of_integer (known : w.offset = some offset) :
    w.setLast (.integer n) = w.setLimit (.integer (n - offset + 1)) := by
  simp [setLast, known]

theorem setLimit_eq_error : w.setLimit (.integer n) = .error fault ↔
    n < 0 ∧ fault = .negative .limit ∨ maxLimit < n ∧ fault = .tooLarge .limit := by
  have ordered : (0 : Int) ≤ maxLimit := by decide
  by_cases low : n < 0
  · have within : ¬maxLimit < n := by omega
    simp [setLimit, checked, Except.map, low, within, eq_comm]
  by_cases high : maxLimit < n
  · simp [setLimit, checked, Except.map, low, high, Field.maximum, eq_comm]
  · simp [setLimit, checked, Except.map, low, high, Field.maximum]

theorem setLast_eq_error : w.setLast value = .error fault ↔ LastRefused w value fault := by
  cases known : w.offset with
  | none =>
    rw [setLast_of_unset known, Except.error.injEq]
    constructor
    · rintro rfl
      exact .noOffset known
    · intro refused
      cases refused <;> simp_all
  | some offset =>
    cases value with
    | foreign kind =>
      rw [setLast_of_foreign known, Except.error.injEq]
      constructor
      · rintro rfl
        exact .noInteger known
      · intro refused
        cases refused <;> simp_all
    | integer n =>
      rw [setLast_of_integer known, setLimit_eq_error]
      constructor
      · rintro (⟨low, rfl⟩ | ⟨high, rfl⟩)
        · exact .before known (by omega)
        · exact .beyond known (by omega)
      · intro refused
        cases refused with
        | noOffset unset => simp [unset] at known
        | before known' low =>
          cases known.symm.trans known'
          exact Or.inl ⟨by omega, rfl⟩
        | beyond known' high =>
          cases known.symm.trans known'
          exact Or.inr ⟨by omega, rfl⟩

/-! ## What is taken -/

theorem endsAt_withLimit (hw : w.InBounds) (known : w.offset = some offset)
    (low : offset - 1 ≤ n) : w.EndsAt n { w with limit := some (n - offset + 1) } := by
  have nonneg := (hw.offset offset known).1
  have size_nonneg : 0 ≤ n - offset + 1 := by omega
  have last_eq : offset + (n - offset + 1) - 1 = n := by omega
  constructor
  · rfl
  · rw [first_of_offset known]
  · simp [isValid, isComplete, first, size, known, nonneg, size_nonneg]
  · simp [last, first, size, known, last_eq]

theorem EndsAt.unique {w'' : Window} (ends : w.EndsAt n w') (ends' : w.EndsAt n w'') :
    w' = w'' := by
  have offset : w'.offset = w''.offset := ends.offset.trans ends'.offset.symm
  have limit : w'.limit = w''.limit := ends.limit.trans ends'.limit.symm
  cases w'
  cases w''
  simp_all

theorem setLast_iff_endsAt (hw : w.InBounds) : w.setLast (.integer n) = .ok w' ↔
    w.InReach n ∧ w.EndsAt n w' := by
  rw [setLast_eq_ok]
  constructor
  · rintro ⟨offset, n, known, ⟨rfl⟩, low, high, rfl⟩
    exact ⟨⟨offset, known, low, high⟩, endsAt_withLimit hw known low⟩
  · rintro ⟨⟨offset, known, low, high⟩, ends⟩
    exact ⟨offset, n, known, rfl, low, high, ends.unique (endsAt_withLimit hw known low)⟩

theorem setLast_last (hw : w.InBounds) (complete : w.isComplete = true) :
    w.setLast (.integer w.last) = .ok w := by
  obtain ⟨offset | offset, limit | limit⟩ := w
  all_goals try cases complete
  obtain ⟨low, high⟩ := hw.limit limit rfl
  have last_eq : last ⟨some offset, some limit⟩ = offset + limit - 1 := rfl
  have limit_eq : offset + limit - 1 - offset + 1 = limit := by omega
  rw [setLast_of_integer rfl, last_eq, limit_eq]
  exact setLimit_eq_ok.2 ⟨limit, rfl, low, high, rfl⟩

/-! ## One after the other -/

-- A limit that is there is not looked at.
theorem setLast_congr (same : w'.offset = w.offset) (value : Argument) :
    w'.setLast value = w.setLast value := by
  obtain ⟨offset, limit⟩ := w
  obtain ⟨offset', limit'⟩ := w'
  cases same
  cases offset with
  | none => rfl
  | some offset => cases value <;> rfl

theorem offset_perform_setLast (value : Argument) :
    (w.perform (.setLast value)).1.offset = w.offset := by
  rw [perform]
  cases set : w.setLast value with
  | error fault => rfl
  | ok w' =>
    obtain ⟨offset, n, -, -, -, -, rfl⟩ := setLast_eq_ok.1 set
    rfl

theorem offset_run_setLast (values : List Argument) :
    (w.run (values.map .setLast)).offset = w.offset := by
  induction values generalizing w with
  | nil => rfl
  | cons value values ih => exact ih.trans (offset_perform_setLast value)

theorem setLast_run (earlier : List Argument) (value : Argument) :
    (w.run (earlier.map .setLast)).setLast value = w.setLast value :=
  setLast_congr (offset_run_setLast earlier) value

/-! ## As an operation -/

theorem attempt_eq_fault {set : Except Fault Window} {failure : Failure} :
    w.attempt set = (w', some failure) ↔
      w' = w ∧ ∃ fault, failure = .fault fault ∧ set = .error fault := by
  cases set <;> simp [attempt, eq_comm]

theorem perform_setLast_eq_ok_iff (hw : w.InBounds) :
    w.perform (.setLast value) = (w', none) ↔
      ∃ n, value = .integer n ∧ w.InReach n ∧ w.EndsAt n w' := by
  rw [perform, attempt_eq_ok]
  constructor
  · intro set
    obtain ⟨offset, n, -, rfl, -, -, -⟩ := setLast_eq_ok.1 set
    exact ⟨n, rfl, (setLast_iff_endsAt hw).1 set⟩
  · rintro ⟨n, rfl, reach, ends⟩
    exact (setLast_iff_endsAt hw).2 ⟨reach, ends⟩

theorem last_set_exactly (reachable : w.Reachable) (value : Argument) :
    (∀ w' failure, w.perform (.setLast value) = (w', some failure) ↔
      w' = w ∧ ∃ fault, failure = .fault fault ∧ LastRefused w value fault) ∧
    (∀ w', w.perform (.setLast value) = (w', none) ↔
      ∃ n, value = .integer n ∧ w.InReach n ∧ w.EndsAt n w') ∧
    (w.isComplete = true → w.perform (.setLast (.integer w.last)) = (w, none)) ∧
    ∀ (earlier : List Argument) w',
      (w.run (earlier.map .setLast)).perform (.setLast value) = (w', none) ↔
        w.perform (.setLast value) = (w', none) := by
  have hw := reachable.inBounds
  refine ⟨?_, fun w' => perform_setLast_eq_ok_iff hw, ?_, ?_⟩
  · intro w' failure
    simp only [perform, attempt_eq_fault, setLast_eq_error]
  · intro complete
    rw [perform, setLast_last hw complete]
    rfl
  · intro earlier w'
    rw [perform, perform, attempt_eq_ok, attempt_eq_ok, setLast_run]

-- The last position may lie beyond the largest offset, and so may the one that is refused.
theorem last_set_beyond_offsets :
    Reachable ⟨some maxOffset, none⟩ ∧
    perform ⟨some maxOffset, none⟩ (.setLast (.integer (maxOffset + maxLimit - 1))) =
      (⟨some maxOffset, some maxLimit⟩, none) ∧
    perform ⟨some maxOffset, none⟩ (.setLast (.integer (maxOffset + maxLimit))) =
      (⟨some maxOffset, none⟩, some (.fault (.tooLarge .limit))) ∧
    isComplete ⟨some maxOffset, some maxLimit⟩ = true ∧
    perform ⟨some maxOffset, some maxLimit⟩
        (.setLast (.integer (last ⟨some maxOffset, some maxLimit⟩))) =
      (⟨some maxOffset, some maxLimit⟩, none) := by
  have reachable : Reachable ⟨some maxOffset, none⟩ :=
    @Reachable.made (some (.integer maxOffset)) none _ rfl
  have reachable' : Reachable ⟨some maxOffset, some maxLimit⟩ :=
    @Reachable.made (some (.integer maxOffset)) (some (.integer maxLimit)) _ rfl
  have reach : InReach ⟨some maxOffset, none⟩ (maxOffset + maxLimit - 1) :=
    ⟨maxOffset, rfl, by decide, by decide⟩
  have ends : EndsAt ⟨some maxOffset, none⟩ (maxOffset + maxLimit - 1)
      ⟨some maxOffset, some maxLimit⟩ := by
    constructor <;> rfl
  have beyond : LastRefused ⟨some maxOffset, none⟩ (.integer (maxOffset + maxLimit))
      (.tooLarge .limit) := .beyond rfl (by decide)
  refine ⟨reachable, ?_, ?_, rfl, ?_⟩
  · exact ((last_set_exactly reachable _).2.1 _).2 ⟨_, rfl, reach, ends⟩
  · exact ((last_set_exactly reachable _).1 _ _).2 ⟨rfl, _, rfl, beyond⟩
  · exact (last_set_exactly reachable' (.integer 0)).2.2.1 rfl

end PagedCatalogue.Window

import PagedCatalogue.Window.Basic

namespace PagedCatalogue.Window

structure InBounds (w : Window) : Prop where
  offset : ∀ n, w.offset = some n → 0 ≤ n ∧ n ≤ maxOffset
  limit : ∀ n, w.limit = some n → 0 ≤ n ∧ n ≤ maxLimit

theorem unset_inBounds : unset.InBounds := by
  constructor
  all_goals
    intro n h
    cases h

theorem InBounds.withOffset {w : Window} (h : w.InBounds) {n : Int} (low : 0 ≤ n)
    (high : n ≤ maxOffset) : InBounds { w with offset := some n } := by
  refine ⟨?_, h.limit⟩
  intro m hm
  cases hm
  exact ⟨low, high⟩

theorem InBounds.withLimit {w : Window} (h : w.InBounds) {n : Int} (low : 0 ≤ n)
    (high : n ≤ maxLimit) : InBounds { w with limit := some n } := by
  refine ⟨h.offset, ?_⟩
  intro m hm
  cases hm
  exact ⟨low, high⟩

theorem InBounds.setOffset {w w' : Window} (h : w.InBounds) {value : Argument}
    (set : w.setOffset value = .ok w') : w'.InBounds := by
  obtain ⟨n, rfl, low, high, rfl⟩ := setOffset_eq_ok.1 set
  exact h.withOffset low high

theorem InBounds.setLimit {w w' : Window} (h : w.InBounds) {value : Argument}
    (set : w.setLimit value = .ok w') : w'.InBounds := by
  obtain ⟨n, rfl, low, high, rfl⟩ := setLimit_eq_ok.1 set
  exact h.withLimit low high

theorem InBounds.setLast {w w' : Window} (h : w.InBounds) {value : Argument}
    (set : w.setLast value = .ok w') : w'.InBounds := by
  obtain ⟨offset, n, -, rfl, low, high, rfl⟩ := setLast_eq_ok.1 set
  exact h.withLimit (by omega) (by omega)

theorem make_inBounds {offset limit : Option Argument} {w : Window}
    (made : make offset limit = .ok w) : w.InBounds := by
  unfold make at made
  cases first : offset.elim (.ok unset) unset.setOffset with
  | error fault => simp only [first, bind, Except.bind, reduceCtorEq] at made
  | ok w₁ =>
    simp only [first, bind, Except.bind] at made
    have hw₁ : w₁.InBounds := by
      cases offset with
      | none =>
        cases first
        exact unset_inBounds
      | some value => exact unset_inBounds.setOffset first
    cases limit with
    | none =>
      cases made
      exact hw₁
    | some value => exact hw₁.setLimit made

theorem InBounds.isValid_eq {w : Window} (h : w.InBounds) : w.isValid = w.isComplete := by
  obtain ⟨offset, limit⟩ := w
  cases offset with
  | none => rfl
  | some o =>
    cases limit with
    | none => rfl
    | some l =>
      have low := (h.offset o rfl).1
      have low' := (h.limit l rfl).1
      simp [isValid, isComplete, first, size, low, low']

theorem make_of_inBounds {offset limit : Int} (h : InBounds ⟨some offset, some limit⟩) :
    make (some (.integer offset)) (some (.integer limit)) = .ok ⟨some offset, some limit⟩ := by
  obtain ⟨low, high⟩ := h.offset offset rfl
  obtain ⟨low', high'⟩ := h.limit limit rfl
  have first : unset.setOffset (.integer offset) = .ok ⟨some offset, none⟩ :=
    setOffset_eq_ok.2 ⟨offset, rfl, low, high, rfl⟩
  have second : setLimit ⟨some offset, none⟩ (.integer limit) = .ok ⟨some offset, some limit⟩ :=
    setLimit_eq_ok.2 ⟨limit, rfl, low', high', rfl⟩
  simp only [make, Option.elim, first, second, bind, Except.bind]

variable {w : Window}

theorem InBounds.first_bounds (hw : w.InBounds) : 0 ≤ w.first ∧ w.first ≤ maxOffset := by
  unfold first
  cases offset : w.offset with
  | none => decide
  | some n => exact hw.offset n offset

theorem InBounds.size_bounds (hw : w.InBounds) : 0 ≤ w.size ∧ w.size ≤ maxLimit := by
  unfold size
  cases limit : w.limit with
  | none => decide
  | some n => exact hw.limit n limit

theorem InBounds.last_bounds (hw : w.InBounds) :
    -1 ≤ w.last ∧ w.last ≤ maxOffset + maxLimit - 1 := by
  obtain ⟨low, high⟩ := hw.first_bounds
  obtain ⟨low', high'⟩ := hw.size_bounds
  unfold last
  split
  · omega
  · simp only [maxLimit] at *
    omega

theorem InBounds.last_eq_neg_one (hw : w.InBounds) (h : w.last = -1) :
    w.limit = some 0 ∧ w.first = 0 := by
  have low := hw.first_bounds.1
  unfold last at h
  split at h
  · rename_i limited
    obtain ⟨n, limit⟩ := Option.isSome_iff_exists.1 limited
    have low' := (hw.limit n limit).1
    have size_eq : w.size = n := by rw [size, limit]; rfl
    have n_eq : n = 0 := by omega
    exact ⟨by rw [limit, n_eq], by omega⟩
  · omega

end PagedCatalogue.Window

import PagedCatalogue.Proofs.Negotiation.Reachable

namespace PagedCatalogue.Window

open Negotiation

variable {w w' : Window}

def run (w : Window) (operations : List Operation) : Window :=
  operations.foldl (fun w operation => (w.perform operation).1) w

-- Only a negotiation may fail after a first assignment.
def Operation.isAssignment : Operation → Bool
  | .negotiate _ => false
  | _ => true

inductive Assigns (w : Window) : Operation → Window → Prop
  | offset (n : Int) : Assigns w (.setOffset (.integer n)) { w with offset := some n }
  | first {value : Argument} {w' : Window} (likewise : Assigns w (.setOffset value) w') :
      Assigns w (.setFirst value) w'
  | limit (n : Int) : Assigns w (.setLimit (.integer n)) { w with limit := some n }
  | last {offset : Int} (known : w.offset = some offset) (n : Int) :
      Assigns w (.setLast (.integer n)) { w with limit := some (n - offset + 1) }

/-! ## One operation -/

theorem attempt_eq_ok {set : Except Fault Window} :
    w.attempt set = (w', none) ↔ set = .ok w' := by
  cases set <;> simp [attempt]

theorem attempt_of_failed {set : Except Fault Window} (failed : (w.attempt set).2 ≠ none) :
    (w.attempt set).1 = w := by
  cases set with
  | error fault => rfl
  | ok w' => exact absurd rfl failed

theorem perform_of_failed {operation : Operation} (assignment : operation.isAssignment = true)
    (failed : (w.perform operation).2 ≠ none) : (w.perform operation).1 = w := by
  cases operation with
  | setOffset value => exact attempt_of_failed failed
  | setFirst value => exact attempt_of_failed failed
  | setLimit value => exact attempt_of_failed failed
  | setLast value => exact attempt_of_failed failed
  | negotiate source => cases assignment

theorem setOffset_iff_assigns (hw : w.InBounds) {value : Argument} :
    w.setOffset value = .ok w' ↔ Assigns w (.setOffset value) w' ∧ w'.InBounds := by
  rw [setOffset_eq_ok]
  constructor
  · rintro ⟨n, rfl, low, high, rfl⟩
    exact ⟨.offset n, hw.withOffset low high⟩
  · rintro ⟨assigns, bounds⟩
    cases assigns with
    | offset n =>
      obtain ⟨low, high⟩ := bounds.offset n rfl
      exact ⟨n, rfl, low, high, rfl⟩

theorem setLimit_iff_assigns (hw : w.InBounds) {value : Argument} :
    w.setLimit value = .ok w' ↔ Assigns w (.setLimit value) w' ∧ w'.InBounds := by
  rw [setLimit_eq_ok]
  constructor
  · rintro ⟨n, rfl, low, high, rfl⟩
    exact ⟨.limit n, hw.withLimit low high⟩
  · rintro ⟨assigns, bounds⟩
    cases assigns with
    | limit n =>
      obtain ⟨low, high⟩ := bounds.limit n rfl
      exact ⟨n, rfl, low, high, rfl⟩

theorem setLast_iff_assigns (hw : w.InBounds) {value : Argument} :
    w.setLast value = .ok w' ↔ Assigns w (.setLast value) w' ∧ w'.InBounds := by
  rw [setLast_eq_ok]
  constructor
  · rintro ⟨offset, n, known, rfl, low, high, rfl⟩
    exact ⟨.last known n, hw.withLimit (by omega) (by omega)⟩
  · rintro ⟨assigns, bounds⟩
    cases assigns with
    | last known n =>
      obtain ⟨low, high⟩ := bounds.limit _ rfl
      exact ⟨_, n, known, rfl, by omega, by omega, rfl⟩

theorem perform_eq_ok_iff (hw : w.InBounds) {operation : Operation}
    (assignment : operation.isAssignment = true) :
    w.perform operation = (w', none) ↔ Assigns w operation w' ∧ w'.InBounds := by
  cases operation with
  | setOffset value => exact attempt_eq_ok.trans (setOffset_iff_assigns hw)
  | setFirst value =>
    have renamed : Assigns w (.setOffset value) w' ↔ Assigns w (.setFirst value) w' :=
      ⟨.first, fun (.first likewise) => likewise⟩
    rw [← renamed]
    exact attempt_eq_ok.trans (setOffset_iff_assigns hw)
  | setLimit value => exact attempt_eq_ok.trans (setLimit_iff_assigns hw)
  | setLast value => exact attempt_eq_ok.trans (setLast_iff_assigns hw)
  | negotiate source => cases assignment

theorem Assigns.keeps {operation : Operation} (h : Assigns w operation w') : w.Keeps w' := by
  induction h with
  | offset n => exact ⟨fun _ => rfl, id⟩
  | first likewise ih => exact ih
  | limit n => exact ⟨id, fun _ => rfl⟩
  | last known n => exact ⟨id, fun _ => rfl⟩

theorem Keeps.perform (hw : w.InBounds) (operation : Operation) :
    w.Keeps (w.perform operation).1 := by
  cases assignment : operation.isAssignment with
  | true =>
    cases result : (w.perform operation).2 with
    | none =>
      have performed : w.perform operation = ((w.perform operation).1, none) := by rw [← result]
      exact ((perform_eq_ok_iff hw assignment).1 performed).1.keeps
    | some failure =>
      rw [perform_of_failed assignment (by rw [result]; nofun)]
      exact .refl w
  | false =>
    cases operation with
    | negotiate source => exact (ending hw source).keeps
    | _ => cases assignment

/-! ## Runs -/

theorem Reachable.run (h : Reachable w) (operations : List Operation) :
    Reachable (w.run operations) := by
  induction operations generalizing w with
  | nil => exact h
  | cons operation operations ih => exact ih (h.performed operation)

theorem Keeps.run (h : Reachable w) (operations : List Operation) : w.Keeps (w.run operations) := by
  induction operations generalizing w with
  | nil => exact .refl w
  | cons operation operations ih =>
    have now := Keeps.perform h.inBounds operation
    have later := ih (h.performed operation)
    exact now.trans later

theorem run_keeps_bounds {offset limit : Option Argument} {operations : List Operation}
    {reached : Window} (made : make offset limit = .ok w) (ran : w.run operations = reached) :
    reached.InBounds ∧ reached.isValid = reached.isComplete ∧
    (-1 ≤ reached.last ∧ reached.last ≤ maxOffset + maxLimit - 1) ∧
    (reached.last = -1 → reached.limit = some 0 ∧ reached.first = 0) ∧
    (∀ later, reached.Keeps (reached.run later)) ∧
    ∀ operation, operation.isAssignment = true →
      ((reached.perform operation).2 ≠ none → (reached.perform operation).1 = reached) ∧
      ∀ w', reached.perform operation = (w', none) ↔
        Assigns reached operation w' ∧ w'.InBounds := by
  have reachable : Reachable reached := by
    rw [← ran]
    exact (Reachable.made made).run operations
  have bounds := reachable.inBounds
  refine ⟨bounds, bounds.isValid_eq, bounds.last_bounds, bounds.last_eq_neg_one,
    Keeps.run reachable, ?_⟩
  intro operation assignment
  exact ⟨perform_of_failed assignment, fun w' => perform_eq_ok_iff bounds assignment⟩

-- The second operation fails as a whole, and the last one after it has taken a limit.
theorem run_bounded_through_failures :
    make (some (.integer 5)) none = .ok ⟨some 5, none⟩ ∧
    run ⟨some 5, none⟩ [.setLast (.integer 9), .setFirst (.foreign .boolean),
      .negotiate (saying (some "7") (some "-1") none)] = ⟨some 5, some 7⟩ ∧
    ∀ later, Keeps ⟨some 5, some 7⟩ (run ⟨some 5, some 7⟩ later) := by
  have made : make (some (.integer 5)) none = .ok ⟨some 5, none⟩ := rfl
  have ran : run ⟨some 5, none⟩ [.setLast (.integer 9), .setFirst (.foreign .boolean),
      .negotiate (saying (some "7") (some "-1") none)] = ⟨some 5, some 7⟩ := by
    decide
  exact ⟨made, ran, (run_keeps_bounds made ran).2.2.2.2.1⟩

end PagedCatalogue.Window

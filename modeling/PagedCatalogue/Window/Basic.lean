import PagedCatalogue.Window.Fault

/-!
# Windows

A window onto a numbered collection has an offset and a limit, and either may be unset, which is not
the same as zero. An unset one reads as zero.
-/

namespace PagedCatalogue

structure Window where
  offset : Option Int
  limit : Option Int
deriving DecidableEq, Repr

namespace Window

def unset : Window := ⟨none, none⟩

def first (w : Window) : Int := w.offset.getD 0

def size (w : Window) : Int := w.limit.getD 0

def last (w : Window) : Int := if w.limit.isSome then w.first + w.size - 1 else w.first

def isComplete (w : Window) : Bool := w.offset.isSome && w.limit.isSome

def isValid (w : Window) : Bool := w.isComplete && decide (0 ≤ w.first) && decide (0 ≤ w.size)

def checked (field : Field) : Argument → Except Fault Int
  | .foreign kind => .error (.notInteger field kind)
  | .integer n =>
    if n < 0 then .error (.negative field)
    else if field.maximum < n then .error (.tooLarge field)
    else .ok n

def setOffset (w : Window) (value : Argument) : Except Fault Window :=
  (checked .offset value).map fun n => { w with offset := some n }

def setLimit (w : Window) (value : Argument) : Except Fault Window :=
  (checked .limit value).map fun n => { w with limit := some n }

/-- The window with the limit that makes a given position the last included one. -/
def setLast (w : Window) (value : Argument) : Except Fault Window :=
  match w.offset, value with
  | none, _ => .error .offsetUnset
  | some _, .foreign kind => .error (.notInteger .last kind)
  | some offset, .integer n => w.setLimit (.integer (n - offset + 1))

def make (offset limit : Option Argument) : Except Fault Window := do
  let w ← offset.elim (.ok unset) unset.setOffset
  limit.elim (.ok w) w.setLimit

theorem checked_eq_ok {field : Field} {value : Argument} {n : Int} :
    checked field value = .ok n ↔ value = .integer n ∧ 0 ≤ n ∧ n ≤ field.maximum := by
  cases value with
  | foreign kind => simp [checked]
  | integer m =>
    simp only [checked, Argument.integer.injEq]
    split
    · simp only [reduceCtorEq, false_iff]
      omega
    split
    · simp only [reduceCtorEq, false_iff]
      omega
    · simp only [Except.ok.injEq]
      omega

theorem map_eq_ok {ε α β : Type} {f : α → β} {e : Except ε α} {b : β} :
    e.map f = .ok b ↔ ∃ a, e = .ok a ∧ f a = b := by
  cases e <;> simp [Except.map]

theorem setOffset_eq_ok {w w' : Window} {value : Argument} :
    w.setOffset value = .ok w' ↔
      ∃ n, value = .integer n ∧ 0 ≤ n ∧ n ≤ maxOffset ∧ w' = { w with offset := some n } := by
  simp only [setOffset, map_eq_ok, checked_eq_ok, Field.maximum]
  exact ⟨fun ⟨n, ⟨hv, hl, hu⟩, h⟩ => ⟨n, hv, hl, hu, h.symm⟩,
    fun ⟨n, hv, hl, hu, h⟩ => ⟨n, ⟨hv, hl, hu⟩, h.symm⟩⟩

theorem setLimit_eq_ok {w w' : Window} {value : Argument} :
    w.setLimit value = .ok w' ↔
      ∃ n, value = .integer n ∧ 0 ≤ n ∧ n ≤ maxLimit ∧ w' = { w with limit := some n } := by
  simp only [setLimit, map_eq_ok, checked_eq_ok, Field.maximum]
  exact ⟨fun ⟨n, ⟨hv, hl, hu⟩, h⟩ => ⟨n, hv, hl, hu, h.symm⟩,
    fun ⟨n, hv, hl, hu, h⟩ => ⟨n, ⟨hv, hl, hu⟩, h.symm⟩⟩

theorem setLast_eq_ok {w w' : Window} {value : Argument} :
    w.setLast value = .ok w' ↔
      ∃ offset n, w.offset = some offset ∧ value = .integer n ∧ offset - 1 ≤ n ∧
        n ≤ offset + maxLimit - 1 ∧ w' = { w with limit := some (n - offset + 1) } := by
  unfold setLast
  split
  · rename_i h
    simp [h]
  · rename_i h
    simp [h]
  · rename_i offset n h
    simp only [setLimit_eq_ok, h, Argument.integer.injEq, Option.some.injEq]
    constructor
    · rintro ⟨m, rfl, low, high, rfl⟩
      exact ⟨offset, n, rfl, rfl, by omega, by omega, rfl⟩
    · rintro ⟨offset, m, rfl, rfl, low, high, rfl⟩
      exact ⟨_, rfl, by omega, by omega, rfl⟩

end Window

end PagedCatalogue

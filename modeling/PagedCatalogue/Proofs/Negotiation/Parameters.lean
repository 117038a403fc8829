import PagedCatalogue.Negotiation.Outcome
import PagedCatalogue.Proofs.Text.Decimal
import PagedCatalogue.Proofs.Window.Bounds

namespace PagedCatalogue

open Text

def Fault.ofValue : Fault → Bool
  | .notInteger .. => false
  | _ => true

namespace Negotiation

variable {w : Window} {field : Field} {said limit offset : Option String}

def reading (field : Field) (said : Option String) : Except Fault (Option Int) :=
  match heard said with
  | some text => (number text >>= Window.checked field).map some
  | none => .ok none

def Gives (field : Field) (said : Option String) (n : Int) : Prop :=
  ∃ text, heard said = some text ∧ Decimal.Denotes text.toList n ∧ 0 ≤ n ∧ n ≤ field.maximum

def Rejected (field : Field) (said : Option String) : Prop :=
  (heard said).isSome ∧ ¬∃ n, Gives field said n

/-! ## Readings -/

theorem number_eq_ok {text : String} {value : Argument} :
    number text = .ok value ↔ ∃ n, Decimal.Denotes text.toList n ∧ value = .integer n := by
  unfold number
  split
  · rename_i n read
    simp only [Except.ok.injEq]
    constructor
    · rintro rfl
      exact ⟨n, Decimal.read_eq_ok.1 read, rfl⟩
    · rintro ⟨m, denotes, rfl⟩
      rw [(Decimal.read_eq_ok.1 read).unique denotes]
  · rename_i fault read
    simp only [reduceCtorEq, false_iff]
    rintro ⟨n, denotes, -⟩
    rw [Decimal.read_eq_ok.2 denotes] at read
    cases read

theorem checked_number_eq_ok {text : String} {n : Int} :
    (number text >>= Window.checked field) = .ok n ↔
      Decimal.Denotes text.toList n ∧ 0 ≤ n ∧ n ≤ field.maximum := by
  cases read : number text with
  | error fault =>
    simp only [bind, Except.bind, reduceCtorEq, false_iff]
    rintro ⟨denotes, -⟩
    rw [number_eq_ok.2 ⟨n, denotes, rfl⟩] at read
    cases read
  | ok value =>
    obtain ⟨m, denotes, rfl⟩ := number_eq_ok.1 read
    simp only [bind, Except.bind, Window.checked_eq_ok, Argument.integer.injEq]
    constructor
    · rintro ⟨rfl, bounds⟩
      exact ⟨denotes, bounds⟩
    · rintro ⟨denotes', bounds⟩
      exact ⟨denotes.unique denotes', bounds⟩

theorem ofValue_of_checked_number {text : String} {fault : Fault}
    (h : (number text >>= Window.checked field) = .error fault) : fault.ofValue = true := by
  unfold number at h
  split at h
  · simp only [bind, Except.bind, Window.checked] at h
    split at h
    · cases h
      rfl
    split at h
    · cases h
      rfl
    · cases h
  · cases h
    rfl

theorem reading_of_heard {text : String} (spoken : heard said = some text) :
    reading field said = (number text >>= Window.checked field).map some := by
  unfold reading
  rw [spoken]

theorem reading_eq_none : reading field said = .ok none ↔ heard said = none := by
  cases spoken : heard said with
  | none => simp only [reading, spoken]
  | some text =>
    rw [reading_of_heard spoken]
    cases checked : number text >>= Window.checked field <;> simp [Except.map]

theorem reading_eq_some {n : Int} : reading field said = .ok (some n) ↔ Gives field said n := by
  unfold Gives
  cases spoken : heard said with
  | none => simp [reading, spoken]
  | some text =>
    rw [reading_of_heard spoken]
    simp only [Option.some.injEq, ← checked_number_eq_ok, exists_eq_left']
    cases checked : number text >>= Window.checked field <;> simp [Except.map]

theorem reading_eq_error {fault : Fault} (h : reading field said = .error fault) :
    Rejected field said ∧ fault.ofValue = true := by
  cases spoken : heard said with
  | none =>
    rw [reading_eq_none.2 spoken] at h
    cases h
  | some text =>
    refine ⟨⟨by rw [spoken]; rfl, ?_⟩, ?_⟩
    · rintro ⟨n, gives⟩
      rw [reading_eq_some.2 gives] at h
      cases h
    · rw [reading_of_heard spoken] at h
      cases checked : number text >>= Window.checked field with
      | error fault' =>
        simp only [checked, Except.map, Except.error.injEq] at h
        rw [← h]
        exact ofValue_of_checked_number checked
      | ok n => simp [checked, Except.map] at h

theorem Gives.heard_ne_none {n : Int} (h : Gives field said n) : heard said ≠ none := by
  obtain ⟨text, spoken, -⟩ := h
  rw [spoken]
  exact Option.some_ne_none text

/-! ## Assignments -/

theorem bind_map_eq {ε α β γ : Type} (e : Except ε α) (f : α → Except ε β) (g : β → γ) :
    (e >>= fun a => (f a).map g) = (e >>= f).map g := by
  cases e <;> rfl

theorem applyLimit_eq : applyLimit w limit =
    (reading .limit limit).map fun n => { w with limit := n.or w.limit } := by
  unfold applyLimit
  cases spoken : heard limit with
  | none =>
    rw [reading_eq_none.2 spoken]
    rfl
  | some text =>
    have assign := bind_map_eq (number text) (Window.checked .limit)
      fun n => { w with limit := some n }
    rw [reading_of_heard spoken]
    refine assign.trans ?_
    cases number text >>= Window.checked .limit <;> rfl

theorem applyOffset_eq : applyOffset w offset =
    (reading .offset offset).map fun n => { w with offset := some (n.getD 0) } := by
  unfold applyOffset
  cases spoken : heard offset with
  | none =>
    rw [reading_eq_none.2 spoken]
    rfl
  | some text =>
    have assign := bind_map_eq (number text) (Window.checked .offset)
      fun n => { w with offset := some n }
    rw [reading_of_heard spoken]
    refine assign.trans ?_
    cases number text >>= Window.checked .offset <;> rfl

theorem inBounds_of_limit (hw : w.InBounds) {l : Option Int}
    (hl : reading .limit limit = .ok l) : Window.InBounds { w with limit := l.or w.limit } := by
  cases l with
  | none => exact hw
  | some n =>
    obtain ⟨-, -, -, low, high⟩ := reading_eq_some.1 hl
    exact hw.withLimit low high

theorem inBounds_of_offset (hw : w.InBounds) {o : Option Int}
    (ho : reading .offset offset = .ok o) :
    Window.InBounds { w with offset := some (o.getD 0) } := by
  cases o with
  | none => exact hw.withOffset (by decide) (by decide)
  | some n =>
    obtain ⟨-, -, -, low, high⟩ := reading_eq_some.1 ho
    exact hw.withOffset low high

/-! ## Rulings -/

theorem byParameters_of_limit_rejected {fault : Fault} (hl : reading .limit limit = .error fault) :
    byParameters w limit offset = refuseParameters w limit offset (some fault) := by
  simp only [byParameters, applyLimit_eq, hl, Except.map]

theorem byParameters_of_offset_rejected {l : Option Int} {fault : Fault}
    (hl : reading .limit limit = .ok l) (ho : reading .offset offset = .error fault) :
    byParameters w limit offset =
      refuseParameters { w with limit := l.or w.limit } limit offset (some fault) := by
  simp only [byParameters, applyLimit_eq, hl, applyOffset_eq, ho, Except.map]

theorem byParameters_of_read {l o : Option Int} (hl : reading .limit limit = .ok l)
    (ho : reading .offset offset = .ok o) :
    byParameters w limit offset =
      if Window.isValid ⟨some (o.getD 0), l.or w.limit⟩ then
        ⟨⟨some (o.getD 0), l.or w.limit⟩, none, []⟩
      else refuseParameters ⟨some (o.getD 0), l.or w.limit⟩ limit offset none := by
  simp only [byParameters, applyLimit_eq, hl, applyOffset_eq, ho, Except.map]

theorem window_byParameters_of_read {l o : Option Int} (hl : reading .limit limit = .ok l)
    (ho : reading .offset offset = .ok o) :
    (byParameters w limit offset).window = ⟨some (o.getD 0), l.or w.limit⟩ := by
  rw [byParameters_of_read hl ho]
  split <;> rfl

theorem byParameters_of_complete (hw : w.InBounds) {l o : Option Int} {n : Int}
    (hl : reading .limit limit = .ok l) (ho : reading .offset offset = .ok o)
    (complete : l.or w.limit = some n) :
    byParameters w limit offset = ⟨⟨some (o.getD 0), some n⟩, none, []⟩ := by
  have valid := (inBounds_of_offset (inBounds_of_limit hw hl) ho).isValid_eq
  simp only [complete] at valid
  rw [byParameters_of_read hl ho, complete, valid]
  rfl

theorem byParameters_of_no_limit {o : Option Int} (hl : reading .limit limit = .ok none)
    (ho : reading .offset offset = .ok o) (hw : w.limit = none) :
    byParameters w limit offset =
      refuseParameters ⟨some (o.getD 0), none⟩ limit offset none := by
  rw [byParameters_of_read hl ho, hw]
  rfl

end Negotiation

end PagedCatalogue

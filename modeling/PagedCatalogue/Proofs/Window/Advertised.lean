import PagedCatalogue.Proofs.Negotiation.Reachable
import PagedCatalogue.Proofs.Window.Render

namespace PagedCatalogue

open Text

def ItemRange.Tells (text : String) (first last total : Int) : Prop :=
  ∃ ds ds' ds'' : List Char, answer? text.toList = some (ds, ds', ds'') ∧
    Decimal.read ds = .ok first ∧ Decimal.read ds' = .ok last ∧ Decimal.read ds'' = .ok total

namespace Window

open ItemRange

variable {w : Window} {total total' : Int}

/-! ## The last position that is shown -/

theorem shownLast_of_le (covered : w.last ≤ total) : w.shownLast (some total) = w.last :=
  if_neg (Int.not_lt.2 covered)

theorem shownLast_le_last : w.shownLast (some total) ≤ w.last := by
  simp only [shownLast]
  omega

theorem shownLast_le_total : w.shownLast (some total) ≤ total := by
  simp only [shownLast]
  omega

-- An empty collection shows position zero, and so does a collection of one item.
theorem shownLast_mono (grown : total ≤ total') :
    w.shownLast (some total) ≤ w.shownLast (some total') := by
  simp only [shownLast]
  omega

theorem shownLast_nonneg_iff (counted : 0 ≤ total) :
    0 ≤ w.shownLast (some total) ↔ 0 ≤ w.last :=
  ⟨fun shown => Int.le_trans shown shownLast_le_last, fun last => shownLast_nonneg last counted⟩

theorem InBounds.last_nonneg_iff (hw : w.InBounds) :
    0 ≤ w.last ↔ ¬(w.limit = some 0 ∧ w.first = 0) := by
  constructor
  · rintro nonneg ⟨limit, first⟩
    simp [last, size, limit, first] at nonneg
  · intro nonempty
    have low := hw.last_bounds.1
    have other : w.last ≠ -1 := fun last => nonempty (hw.last_eq_neg_one last)
    omega

/-! ## Reading -/

-- The minus sign is a second hyphen.
theorem answer?_contentRange_eq_none (first : 0 ≤ w.first)
    (below : w.shownLast (some total) < 0) : answer? (w.contentRange total).toList = none := by
  obtain ⟨n, shown⟩ := Int.eq_negSucc_of_lt_zero below
  have digits := Decimal.isDigits_write first
  simp only [Decimal.isDigits, Bool.and_eq_true] at digits
  have read : span (Decimal.write w.first ++
      '-' :: (Decimal.write (.negSucc n) ++ '/' :: Decimal.write total)) = none := by
    rw [span, dropWhile_append_of_all digits.2 rfl]
    simp [Decimal.write]
  rw [toList_contentRange, shown]
  simp [answer?, read]

theorem isSome_answer?_contentRange (hw : w.InBounds) (counted : 0 ≤ total) :
    (answer? (w.contentRange total).toList).isSome ↔ ¬(w.limit = some 0 ∧ w.first = 0) := by
  rw [← hw.last_nonneg_iff, ← shownLast_nonneg_iff counted]
  by_cases shown : 0 ≤ w.shownLast (some total)
  · simp [answer?_contentRange hw.first_bounds.1 shown counted, shown]
  · simp [answer?_contentRange_eq_none hw.first_bounds.1 (Int.not_le.1 shown), shown]

theorem read_write {n : Int} (short : (Decimal.digits n.natAbs).length ≤ Decimal.maxDigits) :
    Decimal.read (Decimal.write n) = .ok n :=
  Decimal.read_eq_ok.2 (Decimal.denotes_write short)

theorem read_first (hw : w.InBounds) : Decimal.read (Decimal.write w.first) = .ok w.first := by
  obtain ⟨low, high⟩ := hw.first_bounds
  simp only [maxOffset] at high
  exact read_write (Decimal.length_digits_le (by omega))

theorem read_shownLast (hw : w.InBounds) (shown : 0 ≤ w.shownLast (some total)) :
    Decimal.read (Decimal.write (w.shownLast (some total))) = .ok (w.shownLast (some total)) := by
  have high : w.shownLast (some total) ≤ maxOffset + maxLimit - 1 :=
    Int.le_trans shownLast_le_last hw.last_bounds.2
  simp only [maxOffset, maxLimit] at high
  exact read_write (Decimal.length_digits_le (by omega))

theorem tells_contentRange (hw : w.InBounds) (last : 0 ≤ w.last) (counted : 0 ≤ total)
    (short : (Decimal.digits total.natAbs).length ≤ Decimal.maxDigits) :
    Tells (w.contentRange total) w.first (w.shownLast (some total)) total := by
  have shown := shownLast_nonneg last counted
  exact ⟨_, _, _, answer?_contentRange hw.first_bounds.1 shown counted, read_first hw,
    read_shownLast hw shown, read_write short⟩

theorem last_of_tells (hw : w.InBounds) (counted : 0 ≤ total) {first last n : Int}
    (tells : Tells (w.contentRange total) first last n) : last = w.shownLast (some total) := by
  obtain ⟨ds, ds', ds'', read, -, readLast, -⟩ := tells
  by_cases shown : 0 ≤ w.shownLast (some total)
  · rw [answer?_contentRange hw.first_bounds.1 shown counted] at read
    cases read
    rw [read_shownLast hw shown, Except.ok.injEq] at readLast
    exact readLast.symm
  · rw [answer?_contentRange_eq_none hw.first_bounds.1 (Int.not_le.1 shown)] at read
    cases read

theorem contentRange_read_exactly (reachable : w.Reachable) (counted : 0 ≤ total)
    (short : (Decimal.digits total.natAbs).length ≤ Decimal.maxDigits) :
    ((answer? (w.contentRange total).toList).isSome ↔ ¬(w.limit = some 0 ∧ w.first = 0)) ∧
    ((answer? (w.contentRange total).toList).isSome →
      ∃ last, Tells (w.contentRange total) w.first last total ∧
        last ≤ w.last ∧ last ≤ total ∧ (w.last ≤ total → last = w.last)) ∧
    ∀ total' first first' last last' n n', total ≤ total' →
      Tells (w.contentRange total) first last n → Tells (w.contentRange total') first' last' n' →
        last ≤ last' := by
  have hw := reachable.inBounds
  have isRead := isSome_answer?_contentRange hw counted
  refine ⟨isRead, ?_, ?_⟩
  · intro matched
    have last := hw.last_nonneg_iff.2 (isRead.1 matched)
    exact ⟨_, tells_contentRange hw last counted short, shownLast_le_last, shownLast_le_total,
      shownLast_of_le⟩
  · intro total' first first' last last' n n' grown tells tells'
    rw [last_of_tells hw counted tells, last_of_tells hw (Int.le_trans counted grown) tells']
    exact shownLast_mono grown

-- The empty collection shows a position that it does not have.
theorem contentRange_read_growing :
    Reachable ⟨some 0, some 3⟩ ∧
    (∃ last, Tells "items 0-0/0" 0 last 0 ∧ last ≤ 0) ∧
    ∀ last last' n n', Tells "items 0-0/0" 0 last n → Tells "items 0-2/4" 0 last' n' →
      last ≤ last' := by
  have reachable : Reachable ⟨some 0, some 3⟩ :=
    @Reachable.made (some (.integer 0)) (some (.integer 3)) _ rfl
  obtain ⟨isRead, tells, grows⟩ :=
    contentRange_read_exactly reachable (Int.le_refl 0) (by decide)
  obtain ⟨last, told, -, within, -⟩ := tells (isRead.2 (by decide))
  refine ⟨reachable, ⟨last, told, within⟩, ?_⟩
  intro last last' n n'
  exact grows 4 0 0 last last' n n' (by decide)

end Window

end PagedCatalogue

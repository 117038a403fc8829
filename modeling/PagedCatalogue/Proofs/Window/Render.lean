import PagedCatalogue.Proofs.Text.Shortest
import PagedCatalogue.Window.ItemRange
import PagedCatalogue.Window.Render

namespace PagedCatalogue.Window

open Text ItemRange

variable {w : Window} {total : Int}

theorem toList_contentRange (w : Window) (total : Int) :
    (w.contentRange total).toList = "items ".toList ++ Decimal.write w.first ++
      '-' :: (Decimal.write (w.shownLast (some total)) ++ '/' :: Decimal.write total) := by
  simp only [contentRange, items, String.toList_append, Decimal.toList_text, List.append_assoc]
  rfl

theorem answer?_contentRange (first : 0 ≤ w.first) (last : 0 ≤ w.shownLast (some total))
    (counted : 0 ≤ total) :
    answer? (w.contentRange total).toList = some (Decimal.write w.first,
      Decimal.write (w.shownLast (some total)), Decimal.write total) :=
  answer?_eq_some.2 ⟨toList_contentRange w total, Decimal.isDigits_write first,
    Decimal.isDigits_write last, Decimal.isDigits_write counted⟩

theorem shownLast_nonneg (last : 0 ≤ w.last) (counted : 0 ≤ total) :
    0 ≤ w.shownLast (some total) := by
  simp only [shownLast]
  omega

end PagedCatalogue.Window

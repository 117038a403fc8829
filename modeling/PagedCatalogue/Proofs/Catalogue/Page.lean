import PagedCatalogue.Catalogue.Page
import PagedCatalogue.Proofs.Negotiation.Reachable

namespace PagedCatalogue

open Text

variable {c : Catalogue} {w : Window} {offset limit : Nat} {item : Item}

namespace Catalogue

/-! ## Identifiers -/

theorem ids_items (c : Catalogue) : c.items.map (·.id) = List.range' 1 c.size := by
  apply List.ext_getElem?
  intro position
  rw [List.getElem?_map]
  by_cases inside : position < c.size
  · have found := List.getElem?_eq_getElem (l := c.items) (by rwa [length_items])
    rw [found, Option.map_some, id_of_getElem?_items found, List.getElem?_range' inside]
    congr 1
    omega
  · rw [List.getElem?_eq_none (by rw [length_items]; omega), Option.map_none,
      List.getElem?_eq_none (by rw [List.length_range']; omega)]

theorem pairwise_items (c : Catalogue) : c.items.Pairwise (fun a b => a.id < b.id) := by
  have ids : (c.items.map (·.id)).Pairwise (· < ·) := by
    rw [ids_items]
    exact List.pairwise_lt_range'
  exact List.pairwise_map.1 ids

/-! ## Stretches -/

theorem mem_stretch : item ∈ (c.items.drop offset).take limit ↔
    item ∈ c.items ∧ offset < item.id ∧ item.id ≤ offset + limit := by
  simp only [List.mem_iff_getElem?, List.getElem?_take, List.getElem?_drop]
  constructor
  · rintro ⟨i, found⟩
    split at found
    · have id_eq := id_of_getElem?_items found
      exact ⟨⟨offset + i, found⟩, by omega, by omega⟩
    · cases found
  · rintro ⟨⟨position, found⟩, low, high⟩
    have id_eq := id_of_getElem?_items found
    refine ⟨position - offset, ?_⟩
    rw [if_pos (by omega), show offset + (position - offset) = position by omega]
    exact found

theorem pairwise_stretch (c : Catalogue) (offset limit : Nat) :
    ((c.items.drop offset).take limit).Pairwise (fun a b => a.id < b.id) :=
  c.pairwise_items.sublist ((List.take_sublist _ _).trans (List.drop_sublist _ _))

theorem stretch_eq_nil : (c.items.drop offset).take limit = [] ↔ limit = 0 ∨ c.size ≤ offset := by
  rw [List.take_eq_nil_iff, List.drop_eq_nil_iff, length_items]

theorem getLast?_stretch (last : ((c.items.drop offset).take limit).getLast? = some item) :
    item.id = min (offset + limit) c.size := by
  rw [List.getLast?_eq_getElem?, List.getElem?_take, List.getElem?_drop, List.length_take,
    List.length_drop, length_items] at last
  split at last
  · have id_eq := id_of_getElem?_items last
    have inside := (List.getElem?_eq_some_iff.1 last).1
    rw [length_items] at inside
    omega
  · cases last

/-! ## Pages -/

theorem page_eq (hw : w.InBounds) (c : Catalogue) :
    c.page w = .ok ⟨(c.items.drop w.first.toNat).take w.size.toNat, c.size,
      w.contentRange c.size⟩ := by
  obtain ⟨low, high⟩ := hw.first_bounds
  obtain ⟨low', high'⟩ := hw.size_bounds
  have fitting : fits w.size = true ∧ fits w.first = true := by
    simp only [fits, Bool.and_eq_true, decide_eq_true_eq, maxOffset, maxLimit] at *
    omega
  simp only [page, slice, fitting, Bool.and_self, if_true, if_neg (show ¬w.size < 0 by omega),
    Except.map]

end Catalogue

theorem Window.shownLast_of_nonempty {total : Nat} (low : 0 ≤ w.first) (sized : 0 < w.size)
    (before : w.first < total) :
    w.shownLast (some (total : Int)) =
      if w.first + w.size - 1 = total then (total : Int) else min (w.first + w.size) total - 1 := by
  have limited : w.limit.isSome = true := by
    cases limit : w.limit with
    | some n => rfl
    | none =>
      rw [Window.size, limit] at sized
      cases sized
  simp only [Window.shownLast, Window.last, limited, if_true]
  omega

theorem page_agrees_with_range (reachable : w.Reachable) (c : Catalogue) :
    c.items.map (·.id) = List.range' 1 c.size ∧
    ∃ page, c.page w = .ok page ∧ page.total = c.size ∧
      (∀ item, item ∈ page.items ↔
        item ∈ c.items ∧ w.first + 1 ≤ item.id ∧ item.id ≤ min (w.first + w.size) c.size) ∧
      page.items.Pairwise (fun a b => a.id < b.id) ∧
      (page.items = [] ↔ w.size = 0 ∨ c.size ≤ w.first) ∧
      ∃ shown : Int,
        page.contentRange = "items " ++ Decimal.text w.first ++ "-" ++ Decimal.text shown ++ "/" ++
          Decimal.text c.size ∧
        (∀ item (position : Nat), page.items.getLast? = some item → c.items[position]? = some item →
          (shown = position ↔ w.first + w.size - 1 ≠ c.size) ∧
          (w.first + w.size - 1 = c.size → shown = c.size ∧ shown = position + 1)) ∧
        (shown < w.first → page.items = []) := by
  have hw := reachable.inBounds
  have low := hw.first_bounds.1
  have low' := hw.size_bounds.1
  have shows : ¬(w.size = 0 ∨ c.size ≤ w.first) → w.shownLast (some (c.size : Int)) =
      if w.first + w.size - 1 = c.size then (c.size : Int)
      else min (w.first + w.size) c.size - 1 := by
    intro nonempty
    exact Window.shownLast_of_nonempty low (by omega) (by omega)
  have empty_iff : (c.items.drop w.first.toNat).take w.size.toNat = [] ↔
      w.size = 0 ∨ (c.size : Int) ≤ w.first := by
    rw [Catalogue.stretch_eq_nil]
    omega
  refine ⟨c.ids_items, _, Catalogue.page_eq hw c, rfl, ?_, c.pairwise_stretch _ _, empty_iff,
    w.shownLast (some c.size), rfl, ?_, ?_⟩
  · intro item
    rw [Catalogue.mem_stretch]
    refine and_congr_right ?_
    intro stored
    obtain ⟨position, found⟩ := List.mem_iff_getElem?.1 stored
    have id_eq := Catalogue.id_of_getElem?_items found
    have inside := (List.getElem?_eq_some_iff.1 found).1
    rw [Catalogue.length_items] at inside
    omega
  · intro item position last found
    have nonempty : ¬(w.size = 0 ∨ c.size ≤ w.first) := by
      rw [← empty_iff]
      intro empty
      rw [empty] at last
      cases last
    have id_eq := Catalogue.id_of_getElem?_items found
    have last_id := Catalogue.getLast?_stretch last
    have shown_eq := shows nonempty
    omega
  · intro before
    apply empty_iff.2
    apply Classical.byContradiction
    intro nonempty
    have shown_eq := shows nonempty
    omega

-- The window ends at position 3, which is where the next item of three will be.
theorem page_one_behind :
    Window.Reachable ⟨some 1, some 3⟩ ∧
    ∃ page, (Catalogue.ofDrafts [⟨"a", none⟩, ⟨"b", none⟩, ⟨"c", none⟩]).page
        ⟨some 1, some 3⟩ = .ok page ∧
      page.items.getLast? = some ⟨⟨"c", none⟩, 3⟩ ∧ page.contentRange = "items 1-3/3" := by
  have reachable : Window.Reachable ⟨some 1, some 3⟩ :=
    @Window.Reachable.made (some (.integer 1)) (some (.integer 3)) _ rfl
  obtain ⟨-, page, served, -, -, -, -, shown, rendered, positions, -⟩ :=
    page_agrees_with_range reachable
      (Catalogue.ofDrafts [⟨"a", none⟩, ⟨"b", none⟩, ⟨"c", none⟩])
  have last : page.items.getLast? = some ⟨⟨"c", none⟩, 3⟩ := by
    cases served
    rfl
  have shown_eq := ((positions _ 2 last rfl).2 rfl).1
  refine ⟨reachable, page, served, last, ?_⟩
  rw [rendered, shown_eq]
  decide

end PagedCatalogue

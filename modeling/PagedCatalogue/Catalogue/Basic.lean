import PagedCatalogue.Failure

/-!
# Catalogues

A catalogue grows at its end. Its items are numbered from one in the order in which they came, and
none is ever changed or removed.
-/

namespace PagedCatalogue

structure Draft where
  name : String
  description : Option String
deriving DecidableEq, Repr

structure Item extends Draft where
  id : Nat
deriving DecidableEq, Repr

structure Catalogue where
  drafts : Array Draft
deriving DecidableEq, Repr

namespace Catalogue

def ofDrafts (drafts : List Draft) : Catalogue := ⟨drafts.toArray⟩

def size (c : Catalogue) : Nat := c.drafts.size

def numbered (position : Nat) (draft : Draft) : Item := { draft with id := position + 1 }

def items (c : Catalogue) : List Item := c.drafts.toList.mapIdx numbered

def add (c : Catalogue) (draft : Draft) : Catalogue × Item :=
  (⟨c.drafts.push draft⟩, numbered c.size draft)

def fits (n : Int) : Bool := decide (-9223372036854775808 ≤ n) && decide (n ≤ 9223372036854775807)

def get? (c : Catalogue) (id : Int) : Option Item :=
  if 1 ≤ id then c.drafts[id.toNat - 1]?.map (numbered (id.toNat - 1)) else none

def find (c : Catalogue) (id : Int) : Except Failure (Option Item) :=
  if fits id then .ok (c.get? id) else .error .tooWide

def slice (c : Catalogue) (limit offset : Int) : Except Failure (List Item) :=
  if fits limit && fits offset then
    let rest := c.items.drop offset.toNat
    .ok (if limit < 0 then rest else rest.take limit.toNat)
  else .error .tooWide

def item (c : Catalogue) (id : Int) : Except Failure Item := do
  match ← c.find id with
  | some item => return item
  | none => throw (.notFound id)

theorem length_items (c : Catalogue) : c.items.length = c.size := by simp [items, size]

theorem getElem?_items (c : Catalogue) (position : Nat) :
    c.items[position]? = c.drafts[position]?.map (numbered position) := by
  simp [items]

theorem items_add (c : Catalogue) (draft : Draft) :
    (c.add draft).1.items = c.items ++ [(c.add draft).2] := by
  simp [items, add, size, List.mapIdx_append]

theorem id_of_getElem?_items {c : Catalogue} {position : Nat} {item : Item}
    (h : c.items[position]? = some item) : item.id = position + 1 := by
  rw [getElem?_items, Option.map_eq_some_iff] at h
  obtain ⟨draft, _, rfl⟩ := h
  rfl

theorem get?_eq (c : Catalogue) (id : Int) :
    c.get? id = if 1 ≤ id then c.items[id.toNat - 1]? else none := by
  simp only [get?, getElem?_items]

end Catalogue

end PagedCatalogue

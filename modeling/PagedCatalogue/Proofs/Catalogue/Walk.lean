import Mathlib.Data.List.Nodup
import PagedCatalogue.Proofs.Catalogue.Page

/-!
# Walking a catalogue

A catalogue is walked by fetching its pages of one size, each by its index, while items may be added
at any time. A page that is fetched later is taken from a longer catalogue, but always from one that
begins with the first one.
-/

namespace PagedCatalogue

variable {c : Catalogue} {k m : Nat} {moves : List Move} {drafts : List Draft} {item : Item}

inductive Move
  | fetch (index : Nat)
  | add (draft : Draft)

def fetched (moves : List Move) : List Nat :=
  moves.filterMap fun
    | .fetch index => some index
    | .add _ => none

def added (moves : List Move) : List Draft :=
  moves.filterMap fun
    | .fetch _ => none
    | .add draft => some draft

structure Sheet where
  index : Nat
  page : Page

namespace Catalogue

def fetch (c : Catalogue) (k index : Nat) : Except Failure Page := do
  let w ← (Window.make (some (.integer (index * k : Nat))) (some (.integer k))).mapError .fault
  c.page w

def walk (k : Nat) : Catalogue → List Move → Except Failure (List Sheet)
  | _, [] => .ok []
  | c, .add draft :: moves => walk k (c.add draft).1 moves
  | c, .fetch index :: moves => do
    let page ← c.fetch k index
    let sheets ← walk k c moves
    return ⟨index, page⟩ :: sheets

def grown (c : Catalogue) (drafts : List Draft) : Catalogue :=
  drafts.foldl (fun c draft => (c.add draft).1) c

theorem items_prefix_grown (c : Catalogue) (drafts : List Draft) :
    c.items <+: (c.grown drafts).items := by
  induction drafts generalizing c with
  | nil => exact List.prefix_rfl
  | cons draft drafts ih =>
    have now : c.items <+: (c.add draft).1.items := by
      rw [items_add]
      exact List.prefix_append _ _
    exact now.trans (ih (c.add draft).1)

end Catalogue

/-! ## The pages of a walk -/

def Sheet.TakenFrom (sheet : Sheet) (k : Nat) (c : Catalogue) (drafts : List Draft) : Prop :=
  ∃ before, before <+: drafts ∧
    sheet.page.items = ((c.grown before).items.drop (sheet.index * k)).take k

theorem fetch_eq {index : Nat} (high : k ≤ maxLimit) (near : (index * k : Nat) ≤ maxOffset)
    (c : Catalogue) :
    ∃ page, c.fetch k index = .ok page ∧ page.items = (c.items.drop (index * k)).take k := by
  have bounds : Window.InBounds ⟨some ((index * k : Nat) : Int), some (k : Int)⟩ :=
    (Window.unset_inBounds.withOffset (by omega) near).withLimit (by omega) high
  have served : c.fetch k index = c.page ⟨some ((index * k : Nat) : Int), some (k : Int)⟩ := by
    simp only [Catalogue.fetch, Window.make_of_inBounds bounds, Except.mapError, bind, Except.bind]
  rw [served, Catalogue.page_eq bounds]
  exact ⟨_, rfl, rfl⟩

theorem walk_eq (high : k ≤ maxLimit)
    (near : ∀ index ∈ fetched moves, (index * k : Nat) ≤ maxOffset) :
    ∃ sheets, c.walk k moves = .ok sheets ∧ sheets.map (·.index) = fetched moves ∧
      ∀ sheet ∈ sheets, sheet.TakenFrom k c (added moves) := by
  induction moves generalizing c with
  | nil => exact ⟨[], rfl, rfl, nofun⟩
  | cons move moves ih =>
    cases move with
    | add draft =>
      obtain ⟨sheets, walked, indices, taken⟩ := ih (c := (c.add draft).1) near
      refine ⟨sheets, walked, indices, ?_⟩
      intro sheet mem
      obtain ⟨before, earlier, items⟩ := taken sheet mem
      exact ⟨draft :: before, List.cons_prefix_cons.2 ⟨rfl, earlier⟩, items⟩
    | fetch index =>
      obtain ⟨page, served, items⟩ := fetch_eq high (near index List.mem_cons_self) c
      obtain ⟨sheets, walked, indices, taken⟩ :=
        ih (c := c) fun index mem => near index (List.mem_cons_of_mem _ mem)
      refine ⟨⟨index, page⟩ :: sheets, ?_, ?_, ?_⟩
      · simp only [Catalogue.walk, served, walked, bind, Except.bind, pure, Except.pure]
      · exact congrArg (index :: ·) indices
      · intro sheet mem
        rcases List.mem_cons.1 mem with rfl | mem
        · exact ⟨[], List.nil_prefix, items⟩
        · exact taken sheet mem

namespace Sheet.TakenFrom

variable {sheet : Sheet}

theorem index_eq (h : sheet.TakenFrom k c drafts) (mem : item ∈ sheet.page.items) :
    (item.id - 1) / k = sheet.index := by
  obtain ⟨before, -, items⟩ := h
  rw [items, Catalogue.mem_stretch] at mem
  obtain ⟨-, above, below⟩ := mem
  have next : (sheet.index + 1) * k = sheet.index * k + k := Nat.succ_mul _ _
  exact Nat.div_eq_of_lt_le (by omega) (by omega)

theorem holds (low : 0 < k) {position : Nat} (h : sheet.TakenFrom k c drafts)
    (found : c.items[position]? = some item) (index : sheet.index = position / k) :
    item ∈ sheet.page.items := by
  obtain ⟨before, -, items⟩ := h
  have id_eq := Catalogue.id_of_getElem?_items found
  have begins := Nat.div_mul_le_self position k
  have ends := Nat.lt_div_mul_add low (a := position)
  rw [items, Catalogue.mem_stretch, index]
  exact ⟨(c.items_prefix_grown before).subset (List.mem_of_getElem? found), by omega, by omega⟩

theorem items_of_still (h : sheet.TakenFrom k c []) :
    sheet.page.items = (c.items.drop (sheet.index * k)).take k := by
  obtain ⟨before, earlier, items⟩ := h
  rw [items, List.prefix_nil.1 earlier]
  rfl

theorem pairwise (h : sheet.TakenFrom k c drafts) :
    sheet.page.items.Pairwise (fun a b => a.id < b.id) := by
  obtain ⟨before, -, items⟩ := h
  rw [items]
  exact (c.grown before).pairwise_stretch _ _

end Sheet.TakenFrom

/-! ## All pages together -/

variable {sheets : List Sheet}

theorem nodup_ids_of_taken (distinct : (sheets.map (·.index)).Nodup)
    (taken : ∀ sheet ∈ sheets, sheet.TakenFrom k c drafts) :
    ((sheets.flatMap (·.page.items)).map (·.id)).Nodup := by
  have apart : sheets.Pairwise (fun a b => a.index ≠ b.index) := List.pairwise_map.1 distinct
  rw [List.Nodup, List.pairwise_map, List.pairwise_flatMap]
  constructor
  · intro sheet mem
    exact (taken sheet mem).pairwise.imp Nat.ne_of_lt
  · refine apart.imp_of_mem ?_
    intro a b memA memB other x memX y memY same
    apply other
    rw [← (taken a memA).index_eq memX, ← (taken b memB).index_eq memY, same]

theorem flatMap_stretches (items : List Item) (k m : Nat) :
    (List.range m).flatMap (fun index => (items.drop (index * k)).take k) = items.take (m * k) := by
  induction m with
  | zero => simp
  | succ m ih =>
    rw [List.range_succ, List.flatMap_append, ih, Nat.succ_mul, List.take_add]
    simp

theorem map_index_mergeSort (all : (sheets.map (·.index)).Perm (List.range m)) :
    (sheets.mergeSort fun a b => a.index ≤ b.index).map (·.index) = List.range m := by
  have sorted : ((sheets.mergeSort fun a b => a.index ≤ b.index).map (·.index)).Pairwise
      (· ≤ ·) := by
    rw [List.pairwise_map]
    refine (List.pairwise_mergeSort ?_ ?_ sheets).imp of_decide_eq_true
    · simp only [decide_eq_true_eq]
      omega
    · simp only [Bool.or_eq_true, decide_eq_true_eq]
      omega
  have perm := ((List.mergeSort_perm sheets fun a b => a.index ≤ b.index).map (·.index)).trans all
  exact perm.eq_of_pairwise (fun a b _ _ => Nat.le_antisymm) sorted List.pairwise_le_range

theorem flatMap_sheets_of_still (all : (sheets.map (·.index)).Perm (List.range m))
    (taken : ∀ sheet ∈ sheets, sheet.TakenFrom k c []) (reach : c.size ≤ m * k) :
    (sheets.mergeSort fun a b => a.index ≤ b.index).flatMap (·.page.items) = c.items := by
  have items_eq : ∀ sheet ∈ sheets.mergeSort fun a b => a.index ≤ b.index,
      sheet.page.items = (c.items.drop (sheet.index * k)).take k := by
    intro sheet mem
    exact (taken sheet (List.mem_mergeSort.1 mem)).items_of_still
  calc (sheets.mergeSort fun a b => a.index ≤ b.index).flatMap (·.page.items)
      = ((sheets.mergeSort fun a b => a.index ≤ b.index).map (·.index)).flatMap
          (fun index => (c.items.drop (index * k)).take k) := by
        rw [List.flatMap_map]
        exact List.flatMap_congr items_eq
    _ = c.items.take (m * k) := by rw [map_index_mergeSort all, flatMap_stretches]
    _ = c.items := List.take_of_length_le (by rwa [Catalogue.length_items])

theorem size_le_of_ceil (low : 0 < k) (enough : m = (c.size + k - 1) / k) : c.size ≤ m * k := by
  have division := Nat.div_add_mod (c.size + k - 1) k
  have rest := Nat.mod_lt (c.size + k - 1) low
  rw [← enough, Nat.mul_comm] at division
  omega

theorem walk_covers (low : 1 ≤ k) (high : k ≤ maxLimit) (near : ((m - 1) * k : Nat) ≤ maxOffset)
    (all : (fetched moves).Perm (List.range m)) :
    ∃ sheets, c.walk k moves = .ok sheets ∧ sheets.map (·.index) = fetched moves ∧
      ((sheets.flatMap (·.page.items)).map (·.id)).Nodup ∧
      (∀ position item, position < min c.size (m * k) → c.items[position]? = some item →
        (sheets.flatMap (·.page.items)).count item = 1 ∧
        ∃ sheet ∈ sheets, sheet.index = position / k ∧ item ∈ sheet.page.items) ∧
      (∀ sheet ∈ sheets, sheet.page.items.Pairwise (fun a b => a.id < b.id)) ∧
      (added moves = [] → m = (c.size + k - 1) / k →
        (sheets.mergeSort fun a b => a.index ≤ b.index).flatMap (·.page.items) = c.items) := by
  have within : ∀ index ∈ fetched moves, (index * k : Nat) ≤ maxOffset := by
    intro index mem
    have index_lt := List.mem_range.1 (all.mem_iff.1 mem)
    have scaled : index * k ≤ (m - 1) * k := Nat.mul_le_mul_right k (by omega)
    omega
  obtain ⟨sheets, walked, indices, taken⟩ := walk_eq (c := c) high within
  rw [← indices] at all
  have nodup := nodup_ids_of_taken (all.nodup_iff.2 List.nodup_range) taken
  refine ⟨sheets, walked, indices, nodup, ?_, fun sheet mem => (taken sheet mem).pairwise, ?_⟩
  · intro position item inside found
    have index_lt : position / k < m := Nat.div_lt_of_lt_mul (by rw [Nat.mul_comm]; omega)
    obtain ⟨sheet, mem, index⟩ := List.mem_map.1 (all.mem_iff.2 (List.mem_range.2 index_lt))
    have held := (taken sheet mem).holds low found index
    have once := List.count_eq_one_of_mem (List.Nodup.of_map _ nodup)
      (List.mem_flatMap.2 ⟨sheet, mem, held⟩)
    exact ⟨once, sheet, mem, index, held⟩
  · intro still enough
    rw [still] at taken
    exact flatMap_sheets_of_still all taken (size_le_of_ceil low enough)

-- The last page is fetched first, before the item that would fill it is added.
theorem walk_covers_backwards :
    (fetched [.fetch 1, .add ⟨"d", none⟩, .fetch 0]).Perm (List.range 2) ∧
    ∃ sheets, (Catalogue.ofDrafts [⟨"a", none⟩, ⟨"b", none⟩, ⟨"c", none⟩]).walk 2
        [.fetch 1, .add ⟨"d", none⟩, .fetch 0] = .ok sheets ∧
      (sheets.flatMap (·.page.items)).count ⟨⟨"c", none⟩, 3⟩ = 1 ∧
      ∃ sheet ∈ sheets, sheet.index = 1 ∧ ⟨⟨"c", none⟩, 3⟩ ∈ sheet.page.items := by
  have all : (fetched [.fetch 1, .add ⟨"d", none⟩, .fetch 0]).Perm (List.range 2) := by decide
  obtain ⟨sheets, walked, -, -, covers, -⟩ :=
    walk_covers (c := Catalogue.ofDrafts [⟨"a", none⟩, ⟨"b", none⟩, ⟨"c", none⟩])
      (k := 2) (m := 2) (by decide) (by decide) (by decide) all
  exact ⟨all, sheets, walked, covers 2 ⟨⟨"c", none⟩, 3⟩ (by decide) rfl⟩

end PagedCatalogue

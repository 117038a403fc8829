import PagedCatalogue.Proofs.Negotiation.Parameters
import PagedCatalogue.Proofs.Negotiation.Range

namespace PagedCatalogue

open Text ItemRange

structure Window.Keeps (w w' : Window) : Prop where
  offset : w.offset.isSome → w'.offset.isSome
  limit : w.limit.isSome → w'.limit.isSome

theorem Window.Keeps.refl (w : Window) : w.Keeps w := ⟨id, id⟩

theorem Window.Keeps.trans {w₁ w₂ w₃ : Window} (h : w₁.Keeps w₂) (h' : w₂.Keeps w₃) :
    w₁.Keeps w₃ :=
  ⟨h'.offset ∘ h.offset, h'.limit ∘ h.limit⟩

namespace Negotiation

variable {w after : Window} {source : Source}

def saying (limit offset range : Option String) : Source
  | .limit => limit
  | .offset => offset
  | .range => range

/-! ## Paths -/

inductive SourceKind (source : Source) : Prop
  | parameters (spoken : (heard (source .limit)).isSome ∨ (heard (source .offset)).isSome)
  | range {header : String} (noLimit : heard (source .limit) = none)
      (noOffset : heard (source .offset) = none) (said : heard (source .range) = some header)
  | silence (noLimit : heard (source .limit) = none) (noOffset : heard (source .offset) = none)
      (noRange : heard (source .range) = none)

theorem sourceKind (source : Source) : SourceKind source := by
  cases limit : heard (source .limit) with
  | some text => exact .parameters (Or.inl (by rw [limit]; rfl))
  | none =>
    cases offset : heard (source .offset) with
    | some text => exact .parameters (Or.inr (by rw [offset]; rfl))
    | none =>
      cases range : heard (source .range) with
      | some header => exact .range limit offset range
      | none => exact .silence limit offset range

theorem apply_of_parameters
    (spoken : (heard (source .limit)).isSome ∨ (heard (source .offset)).isSome) :
    apply source w =
      ⟨byParameters w (source .limit) (source .offset), [.limit, .offset]⟩ := by
  unfold apply
  rw [if_pos (by simpa only [Bool.or_eq_true] using spoken)]

theorem apply_of_range {header : String} (noLimit : heard (source .limit) = none)
    (noOffset : heard (source .offset) = none) (said : heard (source .range) = some header) :
    apply source w = ⟨byRangeText w header, [.limit, .offset, .range]⟩ := by
  simp only [apply, byRange, noLimit, noOffset, said, Option.isSome_none, Bool.or_self,
    Bool.false_eq_true, if_false]

theorem apply_of_silence (noLimit : heard (source .limit) = none)
    (noOffset : heard (source .offset) = none) (noRange : heard (source .range) = none) :
    apply source w = ⟨⟨w, none, []⟩, [.limit, .offset, .range]⟩ := by
  simp only [apply, byRange, noLimit, noOffset, noRange, Option.isSome_none, Bool.or_self,
    Bool.false_eq_true, if_false]

/-! ## Ends -/

def OffsetAlone (source : Source) (n : Int) : Prop :=
  heard (source .limit) = none ∧ Gives .offset (source .offset) n

def ReversedRange (source : Source) (first : Int) : Prop :=
  heard (source .limit) = none ∧ heard (source .offset) = none ∧
    ∃ header last, heard (source .range) = some header ∧ Names header first last ∧
      Reversed first last

theorem OffsetAlone.bounds {n : Int} (h : OffsetAlone source n) : 0 ≤ n ∧ n ≤ maxOffset := by
  obtain ⟨-, text, -, -, low, high⟩ := h
  exact ⟨low, high⟩

theorem ReversedRange.bounds {first : Int} (h : ReversedRange source first) :
    0 ≤ first ∧ first ≤ maxOffset := by
  obtain ⟨-, -, header, last, -, names, reversed⟩ := h
  exact ⟨names.nonneg.1, reversed.nearFirst⟩

-- The limit is assigned before the offset is read, and an offset before the missing limit is found.
inductive Residue (source : Source) (w : Window) : Window → Prop
  | untouched : Residue source w w
  | limit {n : Int} (gives : Gives .limit (source .limit) n)
      (rejected : Rejected .offset (source .offset)) : Residue source w { w with limit := some n }
  | offset {n : Int} (unlimited : w.limit = none)
      (moved : OffsetAlone source n ∨ ReversedRange source n) : Residue source w ⟨some n, none⟩

inductive Ending (source : Source) (w : Window) : Window → Option Failure → Prop
  | silent : Ending source w w none
  | placed {offset limit : Int} (bounds : Window.InBounds ⟨some offset, some limit⟩) :
      Ending source w ⟨some offset, some limit⟩ none
  | moved {first : Int} (range : ReversedRange source first) :
      Ending source w { w with offset := some first } none
  | failed {after : Window} {failure : Failure} (residue : Residue source w after) :
      Ending source w after (some failure)

/-! ## Every end is one of these -/

theorem ending_of_parameters (hw : w.InBounds)
    (spoken : (heard (source .limit)).isSome ∨ (heard (source .offset)).isSome) :
    Ending source w (byParameters w (source .limit) (source .offset)).window
      (byParameters w (source .limit) (source .offset)).failure := by
  cases hl : reading .limit (source .limit) with
  | error fault =>
    rw [byParameters_of_limit_rejected hl]
    exact .failed .untouched
  | ok l =>
    cases ho : reading .offset (source .offset) with
    | error fault =>
      rw [byParameters_of_offset_rejected hl ho]
      cases l with
      | none => exact .failed .untouched
      | some n => exact .failed (.limit (reading_eq_some.1 hl) (reading_eq_error ho).1)
    | ok o =>
      cases complete : l.or w.limit with
      | some n =>
        have bounds := inBounds_of_offset (inBounds_of_limit hw hl) ho
        rw [complete] at bounds
        rw [byParameters_of_complete hw hl ho complete]
        exact .placed bounds
      | none =>
        obtain ⟨rfl, unlimited⟩ := Option.or_eq_none_iff.1 complete
        have noLimit := reading_eq_none.1 hl
        rw [byParameters_of_no_limit hl ho unlimited]
        cases o with
        | none =>
          rw [noLimit, reading_eq_none.1 ho] at spoken
          simp at spoken
        | some n => exact .failed (.offset unlimited (Or.inl ⟨noLimit, reading_eq_some.1 ho⟩))

theorem ending_of_range (hw : w.InBounds) {header : String}
    (noLimit : heard (source .limit) = none) (noOffset : heard (source .offset) = none)
    (said : heard (source .range) = some header) :
    Ending source w (byRangeText w header).window (byRangeText w header).failure := by
  cases rangeKind header with
  | unreadable foreign =>
    rw [byRangeText_of_unreadable foreign]
    exact .failed .untouched
  | overlong long =>
    rw [byRangeText_of_overlong long]
    exact .failed .untouched
  | outside names misfit ordered =>
    rw [byRangeText_of_outside names misfit ordered]
    exact .failed .untouched
  | span names fits =>
    rw [byRangeText_of_span names fits]
    exact .placed (inBounds_of_fits names.nonneg.1 fits)
  | backwards names reversed =>
    have range : ReversedRange source _ := ⟨noLimit, noOffset, header, _, said, names, reversed⟩
    cases limit : w.limit with
    | some n =>
      rw [byRangeText_of_backwards_limited hw (by rw [limit]; rfl) names reversed]
      exact .moved range
    | none =>
      rw [byRangeText_of_backwards_unlimited limit names reversed, limit]
      exact .failed (.offset limit (Or.inr range))

theorem ending (hw : w.InBounds) (source : Source) :
    Ending source w (apply source w).window (apply source w).failure := by
  cases sourceKind source with
  | parameters spoken =>
    rw [apply_of_parameters spoken]
    exact ending_of_parameters hw spoken
  | range noLimit noOffset said =>
    rw [apply_of_range noLimit noOffset said]
    exact ending_of_range hw noLimit noOffset said
  | silence noLimit noOffset noRange =>
    rw [apply_of_silence noLimit noOffset noRange]
    exact .silent

theorem residue (hw : w.InBounds) (failed : (apply source w).failure ≠ none) :
    Residue source w (apply source w).window := by
  have ended := ending hw source
  generalize (apply source w).window = after, (apply source w).failure = failure at ended failed
  cases ended with
  | silent => exact absurd rfl failed
  | placed bounds => exact absurd rfl failed
  | moved range => exact absurd rfl failed
  | failed residue => exact residue

/-! ## What stays -/

theorem Residue.inBounds (hw : w.InBounds) (h : Residue source w after) : after.InBounds := by
  cases h with
  | untouched => exact hw
  | limit gives rejected =>
    obtain ⟨text, -, -, low, high⟩ := gives
    exact hw.withLimit low high
  | offset unlimited moved =>
    have bounds := moved.elim OffsetAlone.bounds ReversedRange.bounds
    exact Window.unset_inBounds.withOffset bounds.1 bounds.2

theorem Ending.inBounds (hw : w.InBounds) {failure : Option Failure}
    (h : Ending source w after failure) : after.InBounds := by
  cases h with
  | silent => exact hw
  | placed bounds => exact bounds
  | moved range => exact hw.withOffset range.bounds.1 range.bounds.2
  | failed residue => exact residue.inBounds hw

theorem Residue.keeps (h : Residue source w after) : w.Keeps after := by
  cases h with
  | untouched => exact .refl w
  | limit gives rejected => exact ⟨id, fun _ => rfl⟩
  | offset unlimited moved =>
    refine ⟨fun _ => rfl, ?_⟩
    intro limited
    rw [unlimited] at limited
    cases limited

theorem Ending.keeps {failure : Option Failure} (h : Ending source w after failure) :
    w.Keeps after := by
  cases h with
  | silent => exact .refl w
  | placed bounds => exact ⟨fun _ => rfl, fun _ => rfl⟩
  | moved range => exact ⟨fun _ => rfl, id⟩
  | failed residue => exact residue.keeps

end Negotiation

end PagedCatalogue

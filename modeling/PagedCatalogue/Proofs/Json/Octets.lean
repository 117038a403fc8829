import PagedCatalogue.Proofs.Json.Text
import PagedCatalogue.Text.Quoted

namespace PagedCatalogue.Json

open Text

def isSolid (c : Char) : Bool := 0x20 ≤ c.toNat

variable {v : Json} {items : List Json} {members : List (List Point × Json)} {c : Char}

/-! ## Characters -/

theorem isSolid_of_isPrintable (printable : isPrintable c = true) : isSolid c = true := by
  unfold isPrintable at printable
  split at printable
  · exact printable
  · exact decide_eq_true (by omega)

theorem isSolid_of_isNumeric (numeric : isNumeric c = true) : isSolid c = true := by
  simp only [isNumeric, Bool.or_eq_true, decide_eq_true_eq] at numeric
  rcases numeric with ((((digit | rfl) | rfl) | rfl) | rfl) | rfl
  · have low := (Char.isDigit_iff_toNat.1 digit).1
    exact decide_eq_true (Nat.le_trans (by decide) low)
  all_goals rfl

theorem all_isSolid_text (n : Numeral) : n.text.all isSolid = true := by
  refine List.all_eq_true.2 fun c mem => isSolid_of_isNumeric ?_
  rw [Numeral.text, List.append_assoc, List.append_assoc] at mem
  rcases List.mem_append.1 mem with sign | mem
  · rcases n.isSign with eq | eq <;> simp [eq] at sign
    subst sign
    rfl
  · exact n.isNumeric_of_mem mem

theorem all_isSolid_hex (width n : Nat) : (hex width n).all isSolid = true :=
  List.all_eq_true.2 fun _ mem => isSolid_of_isPrintable (Quoted.isPrintable_hex mem)

theorem all_isSolid_escape (c : Char) : (escape c).all isSolid = true := by
  unfold escape
  split
  · rename_i special
    rcases special with rfl | rfl <;> rfl
  split
  · rfl
  split
  · rfl
  split
  · rfl
  split
  · rfl
  split
  · rfl
  split
  · rw [List.all_cons, List.all_cons, all_isSolid_hex]
    rfl
  · rename_i control
    simpa [isSolid] using control

theorem all_isSolid_escapePoint (p : Point) : (escapePoint p).all isSolid = true := by
  cases p with
  | char c => exact all_isSolid_escape c
  | _ =>
    rw [escapePoint, List.all_cons, List.all_cons, all_isSolid_hex]
    · rfl
    · nofun

theorem all_isSolid_quote (s : List Point) : (quote s).all isSolid = true := by
  have inside : (s.flatMap escapePoint).all isSolid = true := by
    rw [List.all_flatMap]
    exact List.all_eq_true.2 fun p _ => all_isSolid_escapePoint p
  rw [quote, List.all_cons, List.all_append, inside]
  rfl

theorem all_isSolid_writeItems (each : ∀ item ∈ items, (write item).all isSolid = true) :
    (writeItems items).all isSolid = true := by
  induction items with
  | nil => rfl
  | cons item items ih =>
    have others := ih fun item mem => each item (List.mem_cons_of_mem _ mem)
    rw [writeItems_cons, List.all_cons, List.all_append, each item List.mem_cons_self, others]
    rfl

theorem all_isSolid_writeMembers
    (each : ∀ member ∈ members, (write member.2).all isSolid = true) :
    (writeMembers members).all isSolid = true := by
  induction members with
  | nil => rfl
  | cons member members ih =>
    have others := ih fun member mem => each member (List.mem_cons_of_mem _ mem)
    rw [writeMembers_cons, List.all_cons, List.all_append, all_isSolid_quote, List.all_cons,
      List.all_append, each member List.mem_cons_self, others]
    rfl

theorem WellFormed.all_isSolid (h : WellFormed v) : (write v).all isSolid = true := by
  induction h with
  | null => rfl
  | bool b => cases b <;> rfl
  | number n =>
    rw [write_number, String.toList_ofList]
    exact all_isSolid_text n
  | string apart => exact all_isSolid_quote _
  | @array items each ih =>
    cases items with
    | nil => rfl
    | cons item items => exact all_isSolid_writeItems ih
  | @object members apart each ih =>
    cases members with
    | nil => rfl
    | cons member members => exact all_isSolid_writeMembers ih

theorem ne_zero_of_mem_encodeChar {n : Nat} (solid : isSolid c = true)
    (mem : n ∈ Utf8.encodeChar c) : n ≠ 0 := by
  have low : 0x20 ≤ c.toNat := of_decide_eq_true solid
  unfold Utf8.encodeChar at mem
  grind

theorem encodingOf_eq {octets : List Nat} (first : ∀ b ∈ octets.head?, b < 0x80)
    (positive : ∀ n ∈ octets, n ≠ 0) : encodingOf octets = (.utf8, octets) := by
  have unmarked : unmarkedEncoding octets = .utf8 := by
    unfold unmarkedEncoding
    split <;> simp_all
  unfold encodingOf
  split <;> simp_all

/-! ## Octets -/

theorem leadPoint_of_lead {b n : Nat} {r : List Nat} {p : Utf8.Pending}
    (lead_eq : Utf8.lead b = some p) (completes : Utf8.Completes p r n) :
    ∃ q, leadPoint b = some q ∧ Utf8.Completes q r n := by
  rw [leadPoint, lead_eq, Option.map_some]
  refine ⟨_, rfl, ?_⟩
  split
  · rename_i b_eq
    rw [b_eq] at lead_eq
    cases lead_eq
    -- Half of a pair may go on with more octets, and nothing else changes.
    cases completes with
    | last low high owed => exact .last low (Nat.le_trans high (by decide)) owed
    | more low high owed rest => exact .more low (Nat.le_trans high (by decide)) owed rest
  · exact completes

theorem points8_of_completes {p : Utf8.Pending} {r : List Nat} {n : Nat}
    (h : Utf8.Completes p r n) (octets : List Nat) :
    points8 (some p) (r ++ octets) = (points8 none octets).map (.ofNat n :: ·) := by
  induction h with
  | last low high owed =>
    rw [List.singleton_append, points8, if_pos ⟨low, high⟩, if_pos owed]
  | more low high owed rest ih =>
    rw [List.cons_append, points8, if_pos ⟨low, high⟩, if_neg (by omega), ih]

theorem points8_encodeChar (c : Char) (octets : List Nat) :
    points8 none (Utf8.encodeChar c ++ octets) = (points8 none octets).map (.char c :: ·) := by
  rcases Utf8.encodeChar_cases c with ⟨ascii, octet⟩ | ⟨b, r, p, eq, high, lead_eq, completes⟩
  · rw [octet, List.singleton_append, points8, if_pos ascii, Char.ofNat_toNat]
  · obtain ⟨q, lead_eq, completes⟩ := leadPoint_of_lead lead_eq completes
    rw [eq, List.cons_append, points8, if_neg (by omega), lead_eq]
    exact (points8_of_completes completes octets).trans
      (congrArg (fun p => (points8 none octets).map (p :: ·)) (Point.ofNat_toNat (.char c)))

theorem points8_encode (cs : List Char) : points8 none (Utf8.encode cs) = some (points cs) := by
  induction cs with
  | nil => rfl
  | cons c cs ih =>
    have split : Utf8.encode (c :: cs) = Utf8.encodeChar c ++ Utf8.encode cs := rfl
    rw [split, points8_encodeChar, ih]
    rfl

theorem received_write (h : WellFormed v) :
    received (Utf8.encode (write v)) = some (points (write v)) := by
  obtain ⟨c, cs, write_eq, opens⟩ := h.opens
  have first : ∀ b ∈ (Utf8.encode (write v)).head?, b < 0x80 := by
    have octet : Utf8.encodeChar c = [c.toNat] := if_pos opens.ascii
    rw [write_eq, Utf8.encode, List.flatMap_cons, octet]
    rintro _ ⟨⟩
    exact opens.ascii
  have positive : ∀ b ∈ Utf8.encode (write v), b ≠ 0 := by
    intro b mem
    obtain ⟨c, char, octet⟩ := List.mem_flatMap.1 mem
    exact ne_zero_of_mem_encodeChar (List.all_eq_true.1 h.all_isSolid c char) octet
  rw [received, encodingOf_eq first positive]
  exact points8_encode (write v)

end PagedCatalogue.Json

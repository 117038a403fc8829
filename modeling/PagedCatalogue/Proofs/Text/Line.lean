import PagedCatalogue.Proofs.Text.Shortest
import PagedCatalogue.Text.Quoted

namespace PagedCatalogue.Text

variable {c : Char} {s t : String} {a b : Option String} {r r' : List Char}

theorem isPrintable_eq_false {run : Nat × Nat} (mem : run ∈ hidden) (far : 0x7f ≤ run.1)
    (low : run.1 ≤ c.toNat) (high : c.toNat ≤ run.2) : isPrintable c = false := by
  have found : (hidden.any fun run => run.1 ≤ c.toNat && c.toNat ≤ run.2) = true :=
    Array.any_eq_true'.2 ⟨run, mem, by simp [low, high]⟩
  rw [isPrintable, if_neg (by omega), found]
  rfl

def blankRuns : List (Nat × Nat) := [(0x7f, 0xa0), (0x1680, 0x1680), (0x1fff, 0x200f),
  (0x2028, 0x202f), (0x205f, 0x206f), (0x2ffc, 0x3000)]

theorem hidden_blankRuns :
    blankRuns.all (fun run => hidden.toList.contains run && 0x7f ≤ run.1) = true := by
  decide +kernel

theorem blank_cases (blank : isBlank c = true) :
    c.toNat < 0x20 ∨ c.toNat = 0x20 ∨
      ∃ run ∈ blankRuns, run.1 ≤ c.toNat ∧ c.toNat ≤ run.2 := by
  simp only [isBlank, isWhiteSpace, Bool.or_eq_true, Bool.and_eq_true, decide_eq_true_eq,
    beq_iff_eq, ← UInt32.toNat_inj, UInt32.le_iff_toNat_le, UInt32.toNat_ofNat] at blank
  simp only [blankRuns, List.mem_cons, List.not_mem_nil, or_false, exists_eq_or_imp,
    exists_eq_left, Char.toNat]
  omega

theorem eq_space_of_isPrintable (printable : isPrintable c = true) (blank : isBlank c = true) :
    c = ' ' := by
  rcases blank_cases blank with control | space | ⟨run, mem, low, high⟩
  · rw [isPrintable, if_pos (by omega), decide_eq_true_eq] at printable
    omega
  · exact Char.toNat_inj.1 space
  · have run_hidden := List.all_eq_true.1 hidden_blankRuns run mem
    simp only [Bool.and_eq_true, List.contains_iff_mem, Array.mem_toList_iff,
      decide_eq_true_eq] at run_hidden
    rw [isPrintable_eq_false run_hidden.1 run_hidden.2 low high] at printable
    cases printable

def isWording (c : Char) : Bool :=
  (0x20 ≤ c.toNat && c.toNat < 0x7f) || (0x400 ≤ c.toNat && c.toNat < 0x500)

theorem hidden_beside_cyrillic :
    hidden.toList.all (fun run => run.2 < 0x400 || 0x500 ≤ run.1) = true := by
  decide +kernel

theorem isPrintable_of_isWording (wording : isWording c = true) : isPrintable c = true := by
  simp only [isWording, Bool.or_eq_true, Bool.and_eq_true, decide_eq_true_eq] at wording
  rcases wording with ⟨low, high⟩ | ⟨low, high⟩
  · exact isPrintable_of_ascii low high
  · have visible : (hidden.any fun run => run.1 ≤ c.toNat && c.toNat ≤ run.2) = false := by
      rw [← Array.any_toList, List.any_eq_false]
      intro run mem
      have apart := List.all_eq_true.1 hidden_beside_cyrillic run mem
      simp only [Bool.or_eq_true, Bool.and_eq_true, decide_eq_true_eq] at apart ⊢
      omega
    rw [isPrintable, if_neg (by omega), visible]
    rfl

def isLine (s : String) : Bool := s.toList.all isPrintable

theorem isLine_append : isLine (s ++ t) = (isLine s && isLine t) := by
  rw [isLine, String.toList_append, List.all_append]
  rfl

theorem isLine_wording (wording : s.toList.all isWording = true) : isLine s = true :=
  List.all_eq_true.2 fun c mem => isPrintable_of_isWording (List.all_eq_true.1 wording c mem)

theorem isLine_text (n : Int) : isLine (Decimal.text n) = true := by
  apply isLine_wording
  rw [Decimal.toList_text, List.all_eq_true]
  intro c mem
  rcases Decimal.isDigit_or_minus_of_mem_write mem with digit | rfl
  · have bounds : 48 ≤ c.toNat ∧ c.toNat ≤ 57 := Char.isDigit_iff_toNat.1 digit
    simp only [isWording, Bool.or_eq_true, Bool.and_eq_true, decide_eq_true_eq]
    omega
  · rfl

theorem isLine_encode (cs : List Char) : isLine (String.ofList (Quoted.encode cs)) = true := by
  rw [isLine, String.toList_ofList, List.all_eq_true]
  exact fun c => Quoted.isPrintable_of_mem_encode

theorem isLine_quotedOrNone (a : Option String) : isLine (quotedOrNone a) = true := by
  cases a with
  | none => exact isLine_wording (by decide)
  | some s => exact isLine_encode s.toList

theorem quoted_append_inj (same : (quoted s).toList ++ r = (quoted t).toList ++ r') :
    s = t ∧ r = r' := by
  simp only [quoted, String.toList_ofList] at same
  have decoded := congrArg Quoted.decode same
  simp only [Quoted.decode_encode, Option.some.injEq, Prod.mk.injEq, String.toList_inj] at decoded
  exact decoded

theorem quoted_inj (same : quoted s = quoted t) : s = t := by
  have whole : (quoted s).toList ++ [] = (quoted t).toList ++ [] := by rw [same]
  exact (quoted_append_inj whole).1

-- A quoted text begins with a quote and `None` does not.
theorem quoted_append_ne_none (s : String) (r r' : List Char) :
    (quoted s).toList ++ r ≠ "None".toList ++ r' := by
  rw [quoted, String.toList_ofList, Quoted.encode]
  intro same
  have first := (List.cons.inj same).1
  rcases Quoted.quoteOf_eq s.toList with quote | quote
  · rw [quote] at first
    cases first
  · rw [quote] at first
    cases first

theorem quotedOrNone_append_inj
    (same : (quotedOrNone a).toList ++ r = (quotedOrNone b).toList ++ r') : a = b ∧ r = r' := by
  cases a with
  | none =>
    cases b with
    | none => exact ⟨rfl, List.append_cancel_left same⟩
    | some t => exact absurd same.symm (quoted_append_ne_none t r' r)
  | some s =>
    cases b with
    | none => exact absurd same (quoted_append_ne_none s r r')
    | some t =>
      obtain ⟨rfl, rest⟩ := quoted_append_inj same
      exact ⟨rfl, rest⟩

end PagedCatalogue.Text

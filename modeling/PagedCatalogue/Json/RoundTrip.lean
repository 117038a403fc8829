import PagedCatalogue.Json.Reader
import PagedCatalogue.Json.Writer

/-!
# Reading what is written

What stands between the quotes of a string spells its code points one by one, and a code point has
several spellings: itself, a letter or a code behind a backslash, or the codes of its two halves.
`Spells` is this grammar. The writer and the reader are each compared with it.
-/

namespace PagedCatalogue.Json

open Text

inductive SpellsPoint : List Char → Point → Prop
  | unescaped {c : Char} (solid : 0x20 ≤ c.toNat) (quote : c ≠ '"') (backslash : c ≠ '\\') :
      SpellsPoint [c] (.char c)
  | letter {l c : Char} (stands : simpleEscape? l = some c) : SpellsPoint ['\\', l] (.char c)
  | code {d₁ d₂ d₃ d₄ : Char} {p : Point} (number : readHex [d₁, d₂, d₃, d₄] = some p.toNat) :
      SpellsPoint ['\\', 'u', d₁, d₂, d₃, d₄] p
  | halves {d₁ d₂ d₃ d₄ e₁ e₂ e₃ e₄ : Char} {high low : Fin 0x400}
      (first : readHex [d₁, d₂, d₃, d₄] = some (Point.high high).toNat)
      (second : readHex [e₁, e₂, e₃, e₄] = some (Point.low low).toNat) :
      SpellsPoint ['\\', 'u', d₁, d₂, d₃, d₄, '\\', 'u', e₁, e₂, e₃, e₄]
        (.char (Point.pair high low))

/-- Half of a pair in front of the other half, with which it would be one character. -/
inductive Joins : Point → List Point → Prop
  | halves (high low : Fin 0x400) (s : List Point) : Joins (.high high) (.low low :: s)

inductive Spells : List Char → List Point → Prop
  | nil : Spells [] []
  | cons {ds cs : List Char} {p : Point} {s : List Point} (first : SpellsPoint ds p)
      (rest : Spells cs s) (apart : ¬Joins p s) : Spells (ds ++ cs) (p :: s)

inductive Apart : List Point → Prop
  | nil : Apart []
  | cons {p : Point} {s : List Point} (apart : ¬Joins p s) (rest : Apart s) : Apart (p :: s)

variable {ds cs r : List Char} {s s' : List Point} {c : Char} {p : Point}

/-! ## What is written -/

theorem apart_points (cs : List Char) : Apart (points cs) := by
  induction cs with
  | nil => exact .nil
  | cons c cs ih => exact .cons nofun ih

theorem spellsPoint_hex {n : Nat} (number : readHex (hex 4 n) = some p.toNat) :
    SpellsPoint ('\\' :: 'u' :: hex 4 n) p := by
  simp only [hex, List.nil_append, List.cons_append] at number ⊢
  exact .code number

theorem spellsPoint_escape (c : Char) : SpellsPoint (escape c) (.char c) := by
  unfold escape
  split
  · rename_i special
    rcases special with rfl | rfl <;> exact .letter rfl
  split
  · subst_vars; exact .letter rfl
  split
  · subst_vars; exact .letter rfl
  split
  · subst_vars; exact .letter rfl
  split
  · rename_i backspace
    have c_eq : c = '\x08' := Char.toNat_inj.1 backspace
    exact .letter (by rw [c_eq]; rfl)
  split
  · rename_i formFeed
    have c_eq : c = '\x0c' := Char.toNat_inj.1 formFeed
    exact .letter (by rw [c_eq]; rfl)
  split
  · rename_i control
    have small : c.toNat < Nat.pow 16 4 := Nat.lt_trans control (by decide)
    exact spellsPoint_hex (readHex_hex small)
  · rename_i special _ _ _ _ _ solid
    simp only [not_or] at special
    exact .unescaped (Nat.le_of_not_lt solid) special.1 special.2

theorem spellsPoint_escapePoint (p : Point) : SpellsPoint (escapePoint p) p := by
  cases p with
  | char c => exact spellsPoint_escape c
  | high n =>
    have bound := n.isLt
    have small : (Point.high n).toNat < Nat.pow 16 4 := by
      simp only [Point.toNat, Nat.pow_eq]
      omega
    exact spellsPoint_hex (readHex_hex small)
  | low n =>
    have bound := n.isLt
    have small : (Point.low n).toNat < Nat.pow 16 4 := by
      simp only [Point.toNat, Nat.pow_eq]
      omega
    exact spellsPoint_hex (readHex_hex small)

theorem spells_escapes (apart : Apart s) : Spells (s.flatMap escapePoint) s := by
  induction apart with
  | nil => exact .nil
  | @cons p s apart rest ih => exact .cons (spellsPoint_escapePoint p) ih apart

/-! ## Pieces -/

theorem join_unit {pieces : List Piece} (apart : ¬Joins p (join pieces)) :
    join (.unit p :: pieces) = p :: join pieces := by
  rw [join]
  rintro high low behind ⟨⟩ rfl
  refine apart ?_
  rw [join]
  · exact .halves ..
  · nofun

/-! ## What is read -/

def pushAll (pieces : List Piece) (reading : Except Stop (List Piece × List Point)) :
    Except Stop (List Piece × List Point) :=
  pieces.foldr push reading

theorem pushAll_ok (front pieces : List Piece) (r : List Point) :
    pushAll front (.ok (pieces, r)) = .ok (front ++ pieces, r) := by
  induction front with
  | nil => rfl
  | cons piece front ih =>
    rw [pushAll, List.foldr_cons, ← pushAll, ih]
    rfl

theorem codeUnit?_eq_some {d₁ d₂ d₃ d₄ : Char} (number : readHex [d₁, d₂, d₃, d₄] = some p.toNat) :
    codeUnit? (points [d₁, d₂, d₃, d₄]) = some p := by
  have text := text?_points (String.ofList [d₁, d₂, d₃, d₄])
  rw [String.toList_ofList] at text
  rw [codeUnit?, text, Option.bind_some, String.toList_ofList, number, Option.map_some,
    Point.ofNat_toNat]

theorem readPieces_code (opening : Nat) {d₁ d₂ d₃ d₄ : Char}
    (number : readHex [d₁, d₂, d₃, d₄] = some p.toNat) (ne : r ≠ []) :
    readPieces opening (points ('\\' :: 'u' :: d₁ :: d₂ :: d₃ :: d₄ :: r)) =
      push (.unit p) (readPieces opening (points r)) := by
  have unit := codeUnit?_eq_some number
  simp only [points_cons, points_nil] at unit ⊢
  simp only [readPieces, unit]
  rw [if_neg (by simpa [points] using ne)]

theorem readPieces_letter (opening : Nat) {l : Char} (stands : simpleEscape? l = some c)
    (r : List Char) :
    readPieces opening (points ('\\' :: l :: r)) =
      push (.point (.char c)) (readPieces opening (points r)) := by
  have other : l ≠ 'u' := by
    rintro rfl
    cases stands
  rw [points_cons, points_cons, readPieces]
  · rw [if_neg (by simpa using other), Point.char?, Option.bind_some, stands]
  · intro _ _ _ _ _ code
    exact absurd (Point.char.inj code) other

theorem readPieces_of_spellsPoint (opening : Nat) (spells : SpellsPoint ds p) (ne : r ≠ []) :
    ∃ front, readPieces opening (points (ds ++ r)) =
        pushAll front (readPieces opening (points r)) ∧
      ∀ pieces, ¬Joins p (join pieces) → join (front ++ pieces) = p :: join pieces := by
  cases spells with
  | @unescaped c solid quote backslash =>
    refine ⟨[.point (.char c)], ?_, fun _ _ => by rw [List.singleton_append, join]⟩
    rw [List.cons_append, List.nil_append, points_cons, readPieces]
    · rw [Point.toNat, if_neg (Nat.not_lt.2 solid)]
      rfl
    all_goals simp_all
  | @letter l c stands =>
    exact ⟨[.point (.char c)], readPieces_letter opening stands r, fun _ _ => by
      rw [List.singleton_append, join]⟩
  | code number => exact ⟨[.unit p], readPieces_code opening number ne, fun _ => join_unit⟩
  | @halves _ _ _ _ _ _ _ _ high low first second =>
    refine ⟨[.unit (.high high), .unit (.low low)], ?_, fun _ _ => rfl⟩
    simp only [List.cons_append, List.nil_append]
    rw [readPieces_code opening first (List.cons_ne_nil _ _), readPieces_code opening second ne]
    rfl

theorem readPieces_of_spells (opening : Nat) (spells : Spells cs s) (r : List Char) :
    ∃ pieces, readPieces opening (points (cs ++ '"' :: r)) = .ok (pieces, points r) ∧
      join pieces = s := by
  induction spells with
  | nil => exact ⟨[], by simp [points_cons, readPieces], by rw [join]⟩
  | @cons ds cs p s first rest apart ih =>
    obtain ⟨pieces, read, rfl⟩ := ih
    obtain ⟨front, step, join_front⟩ :=
      readPieces_of_spellsPoint opening first (r := cs ++ '"' :: r) (by simp)
    refine ⟨front ++ pieces, ?_, join_front pieces apart⟩
    rw [List.append_assoc, step, read, pushAll_ok]

theorem readString_of_spells (spells : Spells cs s) (r : List Char) :
    readString (points (cs ++ '"' :: r)) = .ok (s, points r) := by
  obtain ⟨pieces, read, joined⟩ := readPieces_of_spells _ spells r
  rw [readString, read, ← joined]
  rfl

theorem Spells.unique (spells : Spells cs s) (spells' : Spells cs s') : s = s' := by
  have read := readString_of_spells spells []
  rw [readString_of_spells spells' [], Except.ok.injEq, Prod.mk.injEq] at read
  exact read.1.symm

/-! ## Names and values -/

theorem quote_append (s : List Point) (r : List Char) :
    quote s ++ r = '"' :: (s.flatMap escapePoint ++ '"' :: r) := by
  simp [quote]

theorem skip_quote (s : List Point) (r : List Char) :
    skip (points (quote s ++ r)) = points (quote s ++ r) := rfl

theorem readName_quote (apart : Apart s) (r : List Char) :
    readName (points (quote s ++ ':' :: r)) = .ok (s, skip (points r)) := by
  rw [quote_append, points_cons, readName, readString_of_spells (spells_escapes apart)]
  rfl

theorem readValue_quote (size depth : Nat) (apart : Apart s) (r : List Char) :
    readValue size depth (points (quote s ++ r)) = .ok (.string s, points r) := by
  have h : readScalar (points (quote s ++ r)) = .ok (.string s, points r) := by
    rw [quote_append, points_cons, readScalar, readString_of_spells (spells_escapes apart)]
    rfl
  cases depth <;> exact h

end PagedCatalogue.Json

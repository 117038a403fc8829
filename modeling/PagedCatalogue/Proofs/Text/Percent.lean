import PagedCatalogue.Text.Percent

namespace PagedCatalogue.Text.Percent

variable {free : Char → Bool} {octets : List Nat} {cs s r : List Char} {c x : Char}

inductive Escapes : List Nat → List Char → Prop
  | nil : Escapes [] []
  | cons {b : Nat} {h l : Char} {octets : List Nat} {cs : List Char}
      (high : hexValue? h = some (b / 16)) (low : hexValue? l = some (b % 16))
      (rest : Escapes octets cs) : Escapes (b :: octets) ('%' :: h :: l :: cs)

/-- An encoding in which characters of a class may stand for themselves, and its text. -/
inductive Encodes (free : Char → Bool) : List Char → List Char → Prop
  | nil : Encodes free [] []
  | kept {c : Char} {cs s : List Char} (mayStand : free c = true) (rest : Encodes free cs s) :
      Encodes free (c :: cs) (c :: s)
  | escaped {c : Char} {escape cs s : List Char} (escapes : Escapes (Utf8.encodeChar c) escape)
      (rest : Encodes free cs s) : Encodes free (escape ++ cs) (c :: s)

theorem pieces_of_escapes (h : Escapes octets cs) (r : List Char) :
    pieces (cs ++ r) = octets.map .octet ++ pieces r := by
  induction h with
  | nil => rfl
  | cons high low rest ih =>
    simp only [List.cons_append, pieces, high, low, Nat.div_add_mod, ih, List.map_cons]

theorem decode_of_escapes (h : Escapes (Utf8.encodeChar c) cs) (r : List Char) :
    decode (cs ++ r) = c :: decode r := by
  rw [decode, pieces_of_escapes h, readPieces_char]
  rfl

theorem decode_of_ne (ne : c ≠ '%') (r : List Char) : decode (c :: r) = c :: decode r := by
  by_cases ascii : c.toNat < 0x80
  · exact decode_cons ne ascii r
  · rw [decode, pieces_cons ne, Piece.ofChar, if_neg ascii]
    rfl

theorem decode_of_encodes (percent : free '%' = false) (h : Encodes free cs s) :
    decode cs = s := by
  induction h with
  | nil => rfl
  | @kept c cs s mayStand rest ih =>
    have ne : c ≠ '%' := by
      rintro rfl
      rw [percent] at mayStand
      cases mayStand
    rw [decode_of_ne ne, ih]
  | escaped escapes rest ih => rw [decode_of_escapes escapes, ih]

def isPlain (c : Char) : Bool := c != '%'

theorem encodes_self (plain : '%' ∉ s) : Encodes isPlain s s := by
  induction s with
  | nil => exact .nil
  | cons c s ih =>
    simp only [List.mem_cons, not_or] at plain
    exact .kept (bne_iff_ne.2 (Ne.symm plain.1)) (ih plain.2)

theorem Encodes.ascii {h l : Char} (ascii : c.toNat < 0x80)
    (high : hexValue? h = some (c.toNat / 16)) (low : hexValue? l = some (c.toNat % 16))
    (rest : Encodes free cs s) : Encodes free ('%' :: h :: l :: cs) (c :: s) := by
  have octet : Utf8.encodeChar c = [c.toNat] := if_pos ascii
  have escapes : Escapes (Utf8.encodeChar c) ['%', h, l] := by
    rw [octet]
    exact .cons high low .nil
  exact .escaped escapes rest

theorem mem_of_escapes (h : Escapes octets cs) (mem : x ∈ cs) :
    x = '%' ∨ (hexValue? x).isSome := by
  induction h with
  | nil => cases mem
  | cons high low rest ih =>
    rcases List.mem_cons.1 mem with rfl | mem
    · exact Or.inl rfl
    rcases List.mem_cons.1 mem with rfl | mem
    · exact Or.inr (by rw [high]; rfl)
    rcases List.mem_cons.1 mem with rfl | mem
    · exact Or.inr (by rw [low]; rfl)
    · exact ih mem

theorem not_mem_of_encodes (h : Encodes free cs s) (unfree : free x = false) (ne : x ≠ '%')
    (foreign : hexValue? x = none) : x ∉ cs := by
  induction h with
  | nil => exact List.not_mem_nil
  | kept mayStand rest ih =>
    intro mem
    rcases List.mem_cons.1 mem with rfl | mem
    · rw [unfree] at mayStand
      cases mayStand
    · exact ih mem
  | escaped escapes rest ih =>
    intro mem
    rcases List.mem_append.1 mem with mem | mem
    · rcases mem_of_escapes escapes mem with percent | digit
      · exact ne percent
      · rw [foreign] at digit
        cases digit
    · exact ih mem

end PagedCatalogue.Text.Percent

import PagedCatalogue.Text.Utf8

namespace PagedCatalogue.Text

/-- A code point: a character, or one half of a pair, which is no character by itself. -/
inductive Point
  | char (c : Char)
  | high (n : Fin 0x400)
  | low (n : Fin 0x400)
deriving DecidableEq, Repr, Inhabited

namespace Point

def toNat : Point → Nat
  | .char c => c.toNat
  | .high n => 0xd800 + n.val
  | .low n => 0xdc00 + n.val

def ofNat (n : Nat) : Point :=
  if h : 0xd800 ≤ n ∧ n < 0xdc00 then .high ⟨n - 0xd800, by omega⟩
  else if h : 0xdc00 ≤ n ∧ n < 0xe000 then .low ⟨n - 0xdc00, by omega⟩
  else .char (Char.ofNat n)

def pair (high low : Fin 0x400) : Char := Char.ofNat (0x10000 + high.val * 0x400 + low.val)

def char? : Point → Option Char
  | .char c => some c
  | _ => none

def isChar (p : Point) : Bool := p.char?.isSome

def isIn (class_ : Char → Bool) (p : Point) : Bool := p.char?.any class_

end Point

def points (cs : List Char) : List Point := cs.map .char

instance : Coe String (List Point) := ⟨fun s => points s.toList⟩

def text? (ps : List Point) : Option String :=
  if ps.all Point.isChar then some (String.ofList (ps.filterMap Point.char?)) else none

namespace Point

theorem ofNat_toNat (p : Point) : ofNat p.toNat = p := by
  cases p with
  | char c =>
    have gap := Utf8.toNat_not_surrogate c
    rw [toNat, ofNat, dif_neg (by omega), dif_neg (by omega), Char.ofNat_toNat]
  | high n =>
    have isHigh : 0xd800 ≤ 0xd800 + n.val ∧ 0xd800 + n.val < 0xdc00 := by omega
    simp only [toNat, ofNat, dif_pos isHigh, Nat.add_sub_cancel_left]
  | low n =>
    have notHigh : ¬(0xd800 ≤ 0xdc00 + n.val ∧ 0xdc00 + n.val < 0xdc00) := by omega
    have isLow : 0xdc00 ≤ 0xdc00 + n.val ∧ 0xdc00 + n.val < 0xe000 := by omega
    simp only [toNat, ofNat, dif_neg notHigh, dif_pos isLow, Nat.add_sub_cancel_left]

end Point

variable {ps : List Point} {cs cs' : List Char} {s : String}

theorem points_nil : points [] = [] := rfl

theorem points_cons (c : Char) (cs : List Char) : points (c :: cs) = .char c :: points cs := rfl

theorem length_points (cs : List Char) : (points cs).length = cs.length := List.length_map _

theorem points_injective (h : points cs = points cs') : cs = cs' :=
  (List.map_inj_right fun _ _ => Point.char.inj).1 h

theorem isChar_iff {p : Point} : p.isChar = true ↔ ∃ c, p = .char c := by
  cases p <;> simp [Point.isChar, Point.char?]

theorem all_isChar_points (cs : List Char) : (points cs).all Point.isChar = true := by
  simp [points, Point.isChar, Point.char?]

theorem text?_points (s : String) : text? (points s.toList) = some s := by
  have filtered : (points s.toList).filterMap Point.char? = s.toList := by
    simp [points, List.filterMap_map, Function.comp_def, Point.char?]
  rw [text?, if_pos (all_isChar_points _), filtered, String.ofList_toList]

theorem text?_eq_some : text? ps = some s ↔ ps = points s.toList := by
  constructor
  · intro h
    unfold text? at h
    split at h
    · rename_i chars
      cases h
      rw [String.toList_ofList]
      induction ps with
      | nil => rfl
      | cons p ps ih =>
        rw [List.all_cons, Bool.and_eq_true] at chars
        obtain ⟨c, rfl⟩ := isChar_iff.1 chars.1
        exact congrArg (Point.char c :: ·) (ih chars.2)
    · cases h
  · rintro rfl
    exact text?_points s

theorem exists_points (chars : ps.all Point.isChar = true) :
    ∃ s : String, ps = points s.toList := by
  obtain ⟨s, eq⟩ : ∃ s, text? ps = some s := ⟨_, if_pos chars⟩
  exact ⟨s, text?_eq_some.1 eq⟩

end PagedCatalogue.Text

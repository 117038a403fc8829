import PagedCatalogue.Text.Hex
import PagedCatalogue.Text.Utf8

/-!
# Percent-encoded text

Each `%hh` is an octet, each other ASCII character is its own octet, and the octets are read as
UTF-8, a maximal invalid part as one replacement character. A `%` without two hexadecimal digits
stands for itself. A character outside ASCII stands for itself and ends the octets before it.
-/

namespace PagedCatalogue.Text.Percent

/-- What a part of an encoded text stands for: an octet, or a character outside ASCII. -/
inductive Piece
  | octet (b : Nat)
  | char (c : Char)
deriving DecidableEq, Repr

def Piece.ofChar (c : Char) : Piece := if c.toNat < 0x80 then .octet c.toNat else .char c

def pieces : List Char → List Piece
  | [] => []
  | '%' :: h :: l :: r =>
    match hexValue? h, hexValue? l with
    | some a, some b => .octet (16 * a + b) :: pieces r
    | _, _ => .octet '%'.toNat :: pieces (h :: l :: r)
  | c :: r => .ofChar c :: pieces r

def readPieces : Option Utf8.Pending → List Piece → List Char
  | p, [] => Utf8.finish p
  | p, .octet b :: r => (Utf8.feed p b).1 ++ readPieces (Utf8.feed p b).2 r
  | p, .char c :: r => Utf8.finish p ++ c :: readPieces none r

def decode (cs : List Char) : List Char := readPieces none (pieces cs)

def escape (b : Nat) : List Char := '%' :: (hex 2 b).map Char.toUpper

def encode (keep : Char → Bool) (cs : List Char) : List Char :=
  cs.flatMap fun c => if keep c then [c] else (Utf8.encodeChar c).flatMap escape

theorem readPieces_octets (p : Option Utf8.Pending) (octets : List Nat) (r : List Piece) :
    readPieces p (octets.map .octet ++ r) =
      (Utf8.feedAll p octets).1 ++ readPieces (Utf8.feedAll p octets).2 r := by
  induction octets generalizing p with
  | nil => rfl
  | cons b octets ih => simp [readPieces, Utf8.feedAll, ih]

theorem pieces_cons {c : Char} (h : c ≠ '%') (r : List Char) :
    pieces (c :: r) = .ofChar c :: pieces r := by
  rw [pieces]
  simp [h]

theorem readPieces_char (c : Char) (r : List Piece) :
    readPieces none ((Utf8.encodeChar c).map .octet ++ r) = c :: readPieces none r := by
  rw [readPieces_octets, Utf8.feedAll_encodeChar]
  rfl

theorem decode_cons {c : Char} (ne : c ≠ '%') (ascii : c.toNat < 0x80) (r : List Char) :
    decode (c :: r) = c :: decode r := by
  have h := readPieces_char c (pieces r)
  simp only [Utf8.encodeChar, ascii, if_pos] at h
  rw [decode, pieces_cons ne, Piece.ofChar, if_pos ascii]
  exact h

theorem decode_eq_self {cs : List Char} (h : ∀ c ∈ cs, c ≠ '%' ∧ c.toNat < 0x80) :
    decode cs = cs := by
  induction cs with
  | nil => rfl
  | cons c cs ih =>
    obtain ⟨ne, ascii⟩ := h c List.mem_cons_self
    rw [decode_cons ne ascii, ih fun c mem => h c (List.mem_cons_of_mem _ mem)]

end PagedCatalogue.Text.Percent

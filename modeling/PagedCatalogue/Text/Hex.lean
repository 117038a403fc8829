namespace PagedCatalogue.Text

def hex : Nat → Nat → List Char
  | 0, _ => []
  | width + 1, n => hex width (n / 16) ++ [Nat.digitChar (n % 16)]

def hexValue? (c : Char) : Option Nat :=
  if '0' ≤ c ∧ c ≤ '9' then some (c.toNat - '0'.toNat)
  else if 'a' ≤ c ∧ c ≤ 'f' then some (c.toNat - 'a'.toNat + 10)
  else if 'A' ≤ c ∧ c ≤ 'F' then some (c.toNat - 'A'.toNat + 10)
  else none

def readHex (ds : List Char) : Option Nat :=
  ds.foldlM (fun n d => (hexValue? d).map (16 * n + ·)) 0

theorem hexValue?_digitChar {d : Nat} (h : d < 16) : hexValue? (Nat.digitChar d) = some d := by
  have all : ∀ d : Fin 16, hexValue? (Nat.digitChar d) = some d.val := by decide
  exact all ⟨d, h⟩

theorem readHex_hex {width n : Nat} (h : n < Nat.pow 16 width) :
    readHex (hex width n) = some n := by
  induction width generalizing n with
  | zero =>
    obtain rfl : n = 0 := Nat.lt_one_iff.1 h
    rfl
  | succ width ih =>
    have step : Nat.pow 16 (width + 1) = Nat.pow 16 width * 16 := rfl
    have high : n / 16 < Nat.pow 16 width := by omega
    have front := ih high
    simp only [readHex] at front
    simp only [readHex, hex, List.foldlM_append, front, List.foldlM_cons, List.foldlM_nil]
    simp only [Option.bind_eq_bind, Option.bind_some,
      hexValue?_digitChar (Nat.mod_lt n (by decide : 0 < 16)), Option.map_some]
    simp only [Option.pure_def, Option.some.injEq]
    omega

end PagedCatalogue.Text

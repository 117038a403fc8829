import PagedCatalogue.Text.Hex
import PagedCatalogue.Text.Printable
import PagedCatalogue.Text.Utf8

namespace PagedCatalogue.Text.Quoted

def quoteOf (cs : List Char) : Char :=
  if cs.contains '\'' && !cs.contains '"' then '"' else '\''

def codeEscape (n : Nat) : List Char :=
  if n < 0x100 then 'x' :: hex 2 n
  else if n < 0x10000 then 'u' :: hex 4 n
  else 'U' :: hex 8 n

def escape (quote c : Char) : List Char :=
  if c = quote ∨ c = '\\' then ['\\', c]
  else if c = '\n' then ['\\', 'n']
  else if c = '\r' then ['\\', 'r']
  else if c = '\t' then ['\\', 't']
  else if isPrintable c then [c]
  else '\\' :: codeEscape c.toNat

def encode (cs : List Char) : List Char :=
  quoteOf cs :: (cs.flatMap (escape (quoteOf cs)) ++ [quoteOf cs])

/-! ## Reading -/

def push (c : Char) (read : Option (List Char × List Char)) : Option (List Char × List Char) :=
  read.map fun (cs, r) => (c :: cs, r)

def coded (ds : List Char) (read : Option (List Char × List Char)) :
    Option (List Char × List Char) :=
  (readHex ds).bind fun n => push (Char.ofNat n) read

def decodeBody (quote : Char) : List Char → Option (List Char × List Char)
  | [] => none
  | '\\' :: 'x' :: a :: b :: r => coded [a, b] (decodeBody quote r)
  | '\\' :: 'u' :: a :: b :: c :: d :: r => coded [a, b, c, d] (decodeBody quote r)
  | '\\' :: 'U' :: a :: b :: c :: d :: e :: f :: g :: h :: r =>
    coded [a, b, c, d, e, f, g, h] (decodeBody quote r)
  | '\\' :: 'n' :: r => push '\n' (decodeBody quote r)
  | '\\' :: 'r' :: r => push '\r' (decodeBody quote r)
  | '\\' :: 't' :: r => push '\t' (decodeBody quote r)
  | '\\' :: c :: r => push c (decodeBody quote r)
  | c :: r => if c = quote then some ([], r) else push c (decodeBody quote r)

def decode : List Char → Option (List Char × List Char)
  | quote :: r => if quote = '\'' ∨ quote = '"' then decodeBody quote r else none
  | [] => none

/-! ## Writing and reading agree -/

theorem quoteOf_eq (cs : List Char) : quoteOf cs = '\'' ∨ quoteOf cs = '"' := by
  unfold quoteOf
  split <;> simp

theorem decodeBody_hex2 (quote : Char) {n : Nat} (h : n < 0x100) (r : List Char) :
    decodeBody quote ('\\' :: 'x' :: (hex 2 n ++ r)) =
      push (Char.ofNat n) (decodeBody quote r) := by
  have code : readHex (hex 2 n) = some n := readHex_hex h
  simp only [hex, List.nil_append, List.cons_append] at code ⊢
  simp only [decodeBody, coded, code, Option.bind_some]

theorem decodeBody_hex4 (quote : Char) {n : Nat} (h : n < 0x10000) (r : List Char) :
    decodeBody quote ('\\' :: 'u' :: (hex 4 n ++ r)) =
      push (Char.ofNat n) (decodeBody quote r) := by
  have code : readHex (hex 4 n) = some n := readHex_hex h
  simp only [hex, List.nil_append, List.cons_append] at code ⊢
  simp only [decodeBody, coded, code, Option.bind_some]

theorem decodeBody_hex8 (quote : Char) {n : Nat} (h : n < 0x100000000) (r : List Char) :
    decodeBody quote ('\\' :: 'U' :: (hex 8 n ++ r)) =
      push (Char.ofNat n) (decodeBody quote r) := by
  have code : readHex (hex 8 n) = some n := readHex_hex h
  simp only [hex, List.nil_append, List.cons_append] at code ⊢
  simp only [decodeBody, coded, code, Option.bind_some]

theorem decodeBody_codeEscape (quote c : Char) (r : List Char) :
    decodeBody quote ('\\' :: (codeEscape c.toNat ++ r)) = push c (decodeBody quote r) := by
  have top := Utf8.toNat_lt c
  unfold codeEscape
  split
  · rw [List.cons_append, decodeBody_hex2 quote (by omega), Char.ofNat_toNat]
  split
  · rw [List.cons_append, decodeBody_hex4 quote (by omega), Char.ofNat_toNat]
  · rw [List.cons_append, decodeBody_hex8 quote (by omega), Char.ofNat_toNat]

theorem decodeBody_escape {quote : Char} (hq : quote = '\'' ∨ quote = '"') (c : Char)
    (r : List Char) : decodeBody quote (escape quote c ++ r) = push c (decodeBody quote r) := by
  unfold escape
  split
  · rename_i h
    rcases h with rfl | rfl
    · rcases hq with rfl | rfl <;> rfl
    · rfl
  split
  · subst_vars; rfl
  split
  · subst_vars; rfl
  split
  · subst_vars; rfl
  split
  · rename_i special _ _ _ _
    simp only [not_or] at special
    rw [List.cons_append, List.nil_append, decodeBody]
    · rw [if_neg special.1]
    all_goals simp_all
  · rw [List.cons_append, decodeBody_codeEscape]

theorem decodeBody_flatMap {quote : Char} (hq : quote = '\'' ∨ quote = '"') (cs r : List Char) :
    decodeBody quote (cs.flatMap (escape quote) ++ quote :: r) = some (cs, r) := by
  induction cs with
  | nil =>
    rcases hq with rfl | rfl <;> simp [decodeBody]
  | cons c cs ih => rw [List.flatMap_cons, List.append_assoc, decodeBody_escape hq, ih]; rfl

theorem decode_encode (cs r : List Char) : decode (encode cs ++ r) = some (cs, r) := by
  have hq := quoteOf_eq cs
  simp only [encode, List.cons_append, List.append_assoc, List.nil_append, decode, if_pos hq]
  exact decodeBody_flatMap hq cs r

/-! ## Printable characters only -/

theorem isPrintable_hex {width n : Nat} {c : Char} (h : c ∈ hex width n) :
    isPrintable c = true := by
  have digit : ∀ d : Fin 16, isPrintable (Nat.digitChar d) = true := by decide
  induction width generalizing n with
  | zero => simp [hex] at h
  | succ width ih =>
    simp only [hex, List.mem_append, List.mem_singleton] at h
    rcases h with h | rfl
    · exact ih h
    · exact digit ⟨n % 16, Nat.mod_lt _ (by decide)⟩

theorem isPrintable_escape {quote c d : Char} (hq : quote = '\'' ∨ quote = '"')
    (h : d ∈ escape quote c) : isPrintable d = true := by
  unfold escape at h
  split at h
  · rename_i special
    simp only [List.mem_cons, List.not_mem_nil, or_false] at h
    rcases h with rfl | rfl
    · rfl
    · rcases special with rfl | rfl
      · rcases hq with rfl | rfl <;> rfl
      · rfl
  split at h
  · simp only [List.mem_cons, List.not_mem_nil, or_false] at h
    rcases h with rfl | rfl <;> rfl
  split at h
  · simp only [List.mem_cons, List.not_mem_nil, or_false] at h
    rcases h with rfl | rfl <;> rfl
  split at h
  · simp only [List.mem_cons, List.not_mem_nil, or_false] at h
    rcases h with rfl | rfl <;> rfl
  split at h
  · simp only [List.mem_singleton] at h
    subst h
    assumption
  · simp only [List.mem_cons] at h
    rcases h with rfl | h
    · rfl
    unfold codeEscape at h
    split at h
    · rcases List.mem_cons.1 h with rfl | h
      · rfl
      · exact isPrintable_hex h
    split at h
    · rcases List.mem_cons.1 h with rfl | h
      · rfl
      · exact isPrintable_hex h
    · rcases List.mem_cons.1 h with rfl | h
      · rfl
      · exact isPrintable_hex h

theorem isPrintable_of_mem_encode {cs : List Char} {c : Char} (h : c ∈ encode cs) :
    isPrintable c = true := by
  have hq := quoteOf_eq cs
  have quote : isPrintable (quoteOf cs) = true := by rcases hq with h | h <;> rw [h] <;> rfl
  simp only [encode, List.mem_cons, List.mem_append, List.mem_flatMap, List.not_mem_nil,
    or_false] at h
  rcases h with rfl | ⟨d, _, h⟩ | rfl
  · exact quote
  · exact isPrintable_escape hq h
  · exact quote

end PagedCatalogue.Text.Quoted

namespace PagedCatalogue.Text

def quoted (s : String) : String := String.ofList (Quoted.encode s.toList)

def quotedOrNone : Option String → String
  | some s => quoted s
  | none => "None"

end PagedCatalogue.Text

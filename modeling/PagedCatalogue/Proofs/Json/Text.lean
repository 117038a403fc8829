import PagedCatalogue.Json.RoundTrip
import PagedCatalogue.Proofs.Json.Number

/-!
# Reading the text of a value

The text of a value is read back as the value, unless it is nested too deep or holds an integer of
too many digits. `obstacle` is the first such place.
-/

namespace PagedCatalogue.Json

open Text

/-- A value whose numbers are those of the grammar, and in whose strings every pair is joined. -/
inductive WellFormed : Json → Prop
  | null : WellFormed .null
  | bool (b : Bool) : WellFormed (.bool b)
  | number (n : Numeral) : WellFormed (.number (String.ofList n.text))
  | string {s : List Point} (apart : Apart s) : WellFormed (.string s)
  | array {items : List Json} (each : ∀ item ∈ items, WellFormed item) : WellFormed (.array items)
  | object {members : List (List Point × Json)} (apart : ∀ member ∈ members, Apart member.1)
      (each : ∀ member ∈ members, WellFormed member.2) : WellFormed (.object members)

def strings (members : List (String × String)) : List (List Point × Json) :=
  members.map fun (name, s) => (↑name, .string s)

theorem wellFormed_strings (members : List (String × String)) :
    WellFormed (.object (strings members)) := by
  constructor <;> intro member mem <;> obtain ⟨pair, -, rfl⟩ := List.mem_map.1 mem
  · exact apart_points pair.1.toList
  · exact .string (apart_points pair.2.toList)

/-- What keeps a value from being read, if anything does: the first place at which it is nested too
deep or has too many digits. -/
def obstacle : Nat → Json → Option Stop
  | 0, .array _ => some .tooDeep
  | 0, .object _ => some .tooDeep
  | depth + 1, .array items => items.findSome? (obstacle depth)
  | depth + 1, .object members => members.findSome? fun member => obstacle depth member.2
  | _, .number literal => if isOverlong literal.toList then some .tooManyDigits else none
  | _, _ => none

def readUnless {α : Type} (stop : Option Stop) (a : α) : Except Stop α := stop.elim (.ok a) .error

def ReadBack (size : Nat) (v : Json) : Prop :=
  ∀ depth r, Ends r →
    readValue size depth (points (write v ++ r)) = readUnless (obstacle depth v) (v, points r)

variable {v item : Json} {items : List Json} {name : List Point}
  {members : List (List Point × Json)}
  {size depth fuel : Nat} {r : List Char} {c : Char}

/-! ## Stopped readings -/

theorem readUnless_bind {α β : Type} (stop : Option Stop) (a : α) (f : α → Except Stop β) :
    readUnless stop a >>= f = readUnless stop () >>= fun _ => f a := by
  cases stop <;> rfl

theorem readUnless_map {α β : Type} (stop : Option Stop) (a : α) (f : α → β) :
    (readUnless stop a).map f = readUnless stop (f a) := by
  cases stop <;> rfl

theorem readUnless_cons {α β : Type} (f : α → Option Stop) (a : α) (as : List α) (b : β) :
    readUnless ((a :: as).findSome? f) b =
      readUnless (f a) () >>= fun _ => readUnless (as.findSome? f) b := by
  rw [List.findSome?_cons]
  cases f a <;> rfl

/-! ## First characters -/

structure Opens (c : Char) : Prop where
  visible : isSpace c = false
  inside : c ≠ ']'
  ascii : c.toNat < 0x80

theorem Opens.of_isDigit (digit : c.isDigit = true) : Opens c := by
  have other (d : Char) (h : d.isDigit = false) : c ≠ d := by
    rintro rfl
    rw [digit] at h
    cases h
  have bounds : 48 ≤ c.toNat ∧ c.toNat ≤ 57 := Char.isDigit_iff_toNat.1 digit
  refine ⟨?_, other ']' rfl, by omega⟩
  simp only [isSpace, other ' ' rfl, other '\t' rfl, other '\n' rfl, other '\r' rfl, decide_false,
    Bool.or_self]

theorem Numeral.exists_cons (n : Numeral) :
    ∃ c cs, n.text = c :: cs ∧ (c = '-' ∨ c.isDigit = true) := by
  obtain ⟨d, whole, whole_eq, digit⟩ := n.isWholePart.exists_cons
  rcases n.isSign with sign | sign
  · exact ⟨d, _, by rw [text, sign, whole_eq]; rfl, Or.inr digit⟩
  · exact ⟨'-', _, by rw [text, sign]; rfl, Or.inl rfl⟩

theorem WellFormed.opens (h : WellFormed v) : ∃ c cs, write v = c :: cs ∧ Opens c := by
  cases h with
  | null => exact ⟨'n', _, rfl, by constructor <;> decide⟩
  | bool b => cases b <;> exact ⟨_, _, rfl, by constructor <;> decide⟩
  | number n =>
    obtain ⟨c, cs, text_eq, minus | digit⟩ := n.exists_cons
    · rw [write_number, String.toList_ofList, text_eq, minus]
      exact ⟨'-', cs, rfl, by constructor <;> decide⟩
    · rw [write_number, String.toList_ofList, text_eq]
      exact ⟨c, cs, rfl, .of_isDigit digit⟩
  | string apart => exact ⟨'"', _, rfl, by constructor <;> decide⟩
  | @array items each => cases items <;> exact ⟨'[', _, rfl, by constructor <;> decide⟩
  | @object members apart each =>
    cases members <;> exact ⟨'\x7b', _, rfl, by constructor <;> decide⟩

theorem WellFormed.skip_write (h : WellFormed v) (r : List Char) :
    skip (points (write v ++ r)) = points (write v ++ r) := by
  obtain ⟨c, cs, write_eq, opens⟩ := h.opens
  rw [write_eq, List.cons_append, points_cons, skip, List.dropWhile_cons_of_neg]
  simp [Point.isIn, Point.char?, opens.visible]

/-! ## Lists -/

theorem ends_writeItems (items : List Json) (r : List Char) : Ends (writeItems items ++ r) := by
  cases items <;> rintro c ⟨⟩ <;> decide

theorem ends_writeMembers (members : List (List Point × Json)) (r : List Char) :
    Ends (writeMembers members ++ r) := by
  cases members <;> rintro c ⟨⟩ <;> decide

theorem readItems_write (depth : Nat) (r : List Char) (wellFormed : ∀ v ∈ items, WellFormed v)
    (each : ∀ v ∈ item :: items, ReadBack size v) (enough : items.length < fuel) :
    readItems (readValue size depth) fuel (points (write item ++ (writeItems items ++ r))) =
      readUnless ((item :: items).findSome? (obstacle depth)) (item :: items, points r) := by
  induction items generalizing item fuel with
  | nil =>
    obtain ⟨fuel, rfl⟩ := Nat.exists_eq_succ_of_ne_zero (Nat.ne_zero_of_lt enough)
    have first := each item List.mem_cons_self depth _ (ends_writeItems [] r)
    rw [readItems, first, readUnless_bind, readUnless_cons]
    rfl
  | cons next items ih =>
    obtain ⟨fuel, rfl⟩ := Nat.exists_eq_succ_of_ne_zero (Nat.ne_zero_of_lt enough)
    have first := each item List.mem_cons_self depth _ (ends_writeItems (next :: items) r)
    have others := ih (fun v mem => wellFormed v (List.mem_cons_of_mem _ mem))
      (fun v mem => each v (List.mem_cons_of_mem _ mem)) (Nat.lt_of_succ_lt_succ enough)
    have comma : separator ']' (points (writeItems (next :: items) ++ r)) =
        .ok (false, points (write next ++ (writeItems items ++ r))) := by
      rw [writeItems_cons, List.cons_append, List.append_assoc]
      exact congrArg (fun r => Except.ok (false, r))
        ((wellFormed next List.mem_cons_self).skip_write _)
    rw [readItems, first, readUnless_bind, readUnless_cons]
    refine congrArg _ (funext fun _ => ?_)
    simp only [bind, Except.bind, comma, others, Bool.false_eq_true, if_false]
    cases (next :: items).findSome? (obstacle depth) <;> rfl

theorem readMembers_quote (value : List Point → Except Stop (Json × List Point))
    (apart : Apart name) (cs : List Char) :
    readMembers value (fuel + 1) (points (quote name ++ ':' :: cs)) = do
      let (member, r) ← value (skip (points cs))
      let (closed, r) ← separator '\x7d' r
      if closed then return ([(name, member)], r)
      let (members, r) ← readMembers value fuel r
      return ((name, member) :: members, r) := by
  rw [readMembers, readName_quote apart]
  rfl

theorem readMembers_write (depth : Nat) (r : List Char)
    (apart : ∀ member ∈ (name, v) :: members, Apart member.1)
    (wellFormed : ∀ member ∈ (name, v) :: members, WellFormed member.2)
    (each : ∀ member ∈ (name, v) :: members, ReadBack size member.2)
    (enough : members.length < fuel) :
    readMembers (readValue size depth) fuel
        (points (quote name ++ ':' :: (write v ++ (writeMembers members ++ r)))) =
      readUnless (((name, v) :: members).findSome? fun member => obstacle depth member.2)
        ((name, v) :: members, points r) := by
  have start := (wellFormed _ List.mem_cons_self).skip_write
  induction members generalizing name v fuel with
  | nil =>
    obtain ⟨fuel, rfl⟩ := Nat.exists_eq_succ_of_ne_zero (Nat.ne_zero_of_lt enough)
    have first := each _ List.mem_cons_self depth _ (ends_writeMembers [] r)
    rw [readMembers_quote _ (apart _ List.mem_cons_self), start, first, readUnless_bind,
      readUnless_cons]
    rfl
  | cons next members ih =>
    obtain ⟨fuel, rfl⟩ := Nat.exists_eq_succ_of_ne_zero (Nat.ne_zero_of_lt enough)
    have first := each _ List.mem_cons_self depth _ (ends_writeMembers (next :: members) r)
    have next_wellFormed := fun member mem => wellFormed member (List.mem_cons_of_mem _ mem)
    have others := ih (fun member mem => apart member (List.mem_cons_of_mem _ mem))
      next_wellFormed (fun member mem => each member (List.mem_cons_of_mem _ mem))
      (Nat.lt_of_succ_lt_succ enough) (next_wellFormed next List.mem_cons_self).skip_write
    have comma : separator '\x7d' (points (writeMembers (next :: members) ++ r)) =
        .ok (false, points
          (quote next.1 ++ ':' :: (write next.2 ++ (writeMembers members ++ r)))) := by
      simp only [writeMembers_cons, List.cons_append, List.append_assoc]
      rfl
    rw [readMembers_quote _ (apart _ List.mem_cons_self), start, first, readUnless_bind,
      readUnless_cons]
    refine congrArg _ (funext fun _ => ?_)
    simp only [bind, Except.bind, comma, others, Bool.false_eq_true, if_false]
    cases (next :: members).findSome? (fun member => obstacle depth member.2) <;> rfl

/-! ## Values -/

theorem length_le_writeItems (items : List Json) : items.length ≤ (writeItems items).length := by
  induction items with
  | nil => exact Nat.zero_le _
  | cons item items ih =>
    rw [writeItems_cons, List.length_cons, List.length_cons, List.length_append]
    omega

theorem length_write_le_of_mem {v : Json} (mem : v ∈ items) :
    (write v).length ≤ (writeItems items).length := by
  induction items with
  | nil => cases mem
  | cons item items ih =>
    rw [writeItems_cons, List.length_cons, List.length_append]
    rcases List.mem_cons.1 mem with rfl | mem
    · omega
    · have := ih mem
      omega

theorem length_members_le (members : List (List Point × Json)) :
    members.length ≤ (writeMembers members).length := by
  induction members with
  | nil => exact Nat.zero_le _
  | cons member members ih =>
    rw [writeMembers_cons, List.length_cons, List.length_cons, List.length_append, List.length_cons,
      List.length_append]
    omega

theorem length_write_le_of_mem_members {member : List Point × Json} (mem : member ∈ members) :
    (write member.2).length ≤ (writeMembers members).length := by
  induction members with
  | nil => cases mem
  | cons first members ih =>
    rw [writeMembers_cons, List.length_cons, List.length_append, List.length_cons,
      List.length_append]
    rcases List.mem_cons.1 mem with rfl | mem
    · omega
    · have := ih mem
      omega

theorem readValue_scalar (depth : Nat) {cs : List Char} (noArray : c ≠ '[')
    (noObject : c ≠ '\x7b') :
    readValue size depth (points (c :: cs)) = readScalar (points (c :: cs)) := by
  cases depth <;> simp [points_cons, readValue, noArray, noObject]

theorem obstacle_number (depth : Nat) (literal : String) :
    obstacle depth (.number literal) =
      if isOverlong literal.toList then some .tooManyDigits else none := by
  cases depth <;> rfl

theorem readBack_number (n : Numeral) : ReadBack size (.number (String.ofList n.text)) := by
  intro depth r ends
  have scalar : readValue size depth (points (n.text ++ r)) =
      readScalar (points (n.text ++ r)) := by
    obtain ⟨c, cs, text_eq, minus | digit⟩ := n.exists_cons
    · rw [text_eq, minus]
      exact readValue_scalar depth (by decide) (by decide)
    · rw [text_eq]
      exact readValue_scalar depth (by rintro rfl; cases digit) (by rintro rfl; cases digit)
  rw [write_number, String.toList_ofList, scalar, n.readScalar_numeral ends, obstacle_number,
    String.toList_ofList, Numeral.reading]
  split <;> rfl

theorem readValue_array {cs : List Char} (start : skip (points (c :: cs)) = points (c :: cs))
    (inside : c ≠ ']') :
    readValue size (depth + 1) (points ('[' :: c :: cs)) =
      (readItems (readValue size depth) size (points (c :: cs))).map
        fun (items, r) => (.array items, r) := by
  rw [points_cons, readValue, start]
  split
  · rename_i h
    exact absurd (Point.char.inj (List.cons.inj h).1) inside
  · rfl

theorem readValue_object (name : List Point) (cs : List Char) :
    readValue size (depth + 1) (points ('\x7b' :: (quote name ++ cs))) =
      (readMembers (readValue size depth) size (points (quote name ++ cs))).map
        fun (members, r) => (.object members, r) := by
  rw [points_cons, readValue, skip_quote]
  rfl

theorem WellFormed.readBack (h : WellFormed v) (fits : (write v).length ≤ size) :
    ReadBack size v := by
  induction h with
  | null => intro depth r ends; cases depth <;> rfl
  | bool b => intro depth r ends; cases depth <;> cases b <;> rfl
  | number n => exact readBack_number n
  | string apart =>
    intro depth r ends
    rw [write_string, readValue_quote size depth apart]
    cases depth <;> rfl
  | @array items each ih =>
    intro depth r ends
    cases depth with
    | zero => cases items <;> rfl
    | succ depth =>
      cases items with
      | nil => rfl
      | cons item items =>
        -- The bracket stands where the comma in front of the items would.
        have length_eq : (write (.array (item :: items))).length =
            (writeItems (item :: items)).length := rfl
        rw [length_eq] at fits
        have others := readItems_write depth r
          (fun v mem => each v (List.mem_cons_of_mem _ mem))
          (fun v mem => ih v mem (Nat.le_trans (length_write_le_of_mem mem) fits))
          (Nat.le_trans (length_le_writeItems (item :: items)) fits)
        obtain ⟨c, cs, write_eq, opens⟩ := (each item List.mem_cons_self).opens
        have start := (each item List.mem_cons_self).skip_write (writeItems items ++ r)
        simp only [write_array, List.cons_append, List.append_assoc] at others ⊢
        rw [write_eq, List.cons_append] at start others ⊢
        rw [readValue_array start opens.inside, others, readUnless_map]
        rfl
  | @object members apart each ih =>
    intro depth r ends
    cases depth with
    | zero => cases members <;> rfl
    | succ depth =>
      cases members with
      | nil => rfl
      | cons member members =>
        have length_eq : (write (.object (member :: members))).length =
            (writeMembers (member :: members)).length := rfl
        rw [length_eq] at fits
        obtain ⟨name, v⟩ := member
        have others := readMembers_write depth r apart each
          (fun member mem =>
            ih member mem (Nat.le_trans (length_write_le_of_mem_members mem) fits))
          (Nat.le_trans (length_members_le ((name, v) :: members)) fits)
        simp only [write_object, List.cons_append, List.append_assoc] at others ⊢
        rw [readValue_object, others, readUnless_map]
        rfl

/-! ## Texts -/

theorem readAll_write (h : WellFormed v) (depth : Nat) :
    readAll depth (points (write v)) = readUnless (obstacle depth v) v := by
  have start := h.skip_write []
  have value := h.readBack (Nat.le_succ _) depth [] nofun
  rw [List.append_nil] at start value
  rw [readAll, length_points, start, value, readUnless_bind]
  cases obstacle depth v <;> rfl

theorem read_write (h : WellFormed v) (depth : Nat) :
    read depth (points (write v)) =
      (obstacle depth v).elim (.ok v) fun stop => .error (stop.fault (write v).length) := by
  rw [read, readAll_write h, length_points]
  cases obstacle depth v <;> rfl

theorem obstacle_cases {stop : Stop} (h : obstacle depth v = some stop) :
    stop = .tooManyDigits ∨ stop = .tooDeep := by
  induction depth generalizing v with
  | zero =>
    unfold obstacle at h
    split at h <;> simp_all
  | succ depth ih =>
    cases v with
    | array items =>
      obtain ⟨item, -, h⟩ := List.exists_of_findSome?_eq_some h
      exact ih h
    | object members =>
      obtain ⟨member, -, h⟩ := List.exists_of_findSome?_eq_some h
      exact ih h
    | number literal =>
      rw [obstacle_number] at h
      split at h
      · exact Or.inl (Option.some.inj h).symm
      · cases h
    | _ => cases h

end PagedCatalogue.Json

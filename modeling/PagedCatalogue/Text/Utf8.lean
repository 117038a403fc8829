/-!
# UTF-8

Octets are natural numbers below 256. `feed` reads one after another. An octet that cannot go on
with what is pending ends it: the pending part is a maximal invalid one and becomes a single
replacement character, and the octet is read afresh.
-/

namespace PagedCatalogue.Text.Utf8

def replacement : Char := '\ufffd'

/-! ## Encoding -/

def encodeChar (c : Char) : List Nat :=
  if c.toNat < 0x80 then [c.toNat]
  else if c.toNat < 0x800 then [0xc0 + c.toNat / 64, 0x80 + c.toNat % 64]
  else if c.toNat < 0x10000 then
    [0xe0 + c.toNat / 4096, 0x80 + c.toNat / 64 % 64, 0x80 + c.toNat % 64]
  else [0xf0 + c.toNat / 262144, 0x80 + c.toNat / 4096 % 64, 0x80 + c.toNat / 64 % 64,
    0x80 + c.toNat % 64]

def encode (cs : List Char) : List Nat := cs.flatMap encodeChar

def octets (s : String) : List UInt8 := (encode s.toList).map .ofNat

/-! ## Decoding -/

/-- A character of which some octets are read: its bits so far, the number of octets still owed, and
the least and the greatest octet that may come next. -/
structure Pending where
  bits : Nat
  owed : Nat
  low : Nat
  high : Nat
deriving DecidableEq, Repr

def lead (b : Nat) : Option Pending :=
  if 0xc2 ≤ b ∧ b ≤ 0xdf then some ⟨b - 0xc0, 1, 0x80, 0xbf⟩
  else if b = 0xe0 then some ⟨0, 2, 0xa0, 0xbf⟩
  else if b = 0xed then some ⟨0xd, 2, 0x80, 0x9f⟩
  else if 0xe1 ≤ b ∧ b ≤ 0xef then some ⟨b - 0xe0, 2, 0x80, 0xbf⟩
  else if b = 0xf0 then some ⟨0, 3, 0x90, 0xbf⟩
  else if 0xf1 ≤ b ∧ b ≤ 0xf3 then some ⟨b - 0xf0, 3, 0x80, 0xbf⟩
  else if b = 0xf4 then some ⟨4, 3, 0x80, 0x8f⟩
  else none

def begin (b : Nat) : List Char × Option Pending :=
  if b < 0x80 then ([Char.ofNat b], none)
  else match lead b with
  | some p => ([], some p)
  | none => ([replacement], none)

def feed : Option Pending → Nat → List Char × Option Pending
  | none, b => begin b
  | some p, b =>
    if p.low ≤ b ∧ b ≤ p.high then
      if p.owed ≤ 1 then ([Char.ofNat (p.bits * 64 + (b - 0x80))], none)
      else ([], some ⟨p.bits * 64 + (b - 0x80), p.owed - 1, 0x80, 0xbf⟩)
    else (replacement :: (begin b).1, (begin b).2)

def finish : Option Pending → List Char
  | none => []
  | some _ => [replacement]

def feedAll : Option Pending → List Nat → List Char × Option Pending
  | p, [] => ([], p)
  | p, b :: r => ((feed p b).1 ++ (feedAll (feed p b).2 r).1, (feedAll (feed p b).2 r).2)

/-! ## Faults -/

inductive Flaw
  | start | continuation | ending
deriving DecidableEq, Repr

structure Fault where
  flaw : Flaw
  position : Nat
  octets : List Nat
deriving DecidableEq, Repr

/-- The first fault in some octets, after some that are pending, in reverse. The position is that of
the first one pending. -/
def faultFrom (position : Nat) (begun : List Nat) : Option Pending → List Nat → Option Fault
  | none, [] => none
  | some _, [] => some ⟨.ending, position, begun.reverse⟩
  | none, b :: r =>
    if b < 0x80 then faultFrom (position + 1) [] none r
    else match lead b with
    | some p => faultFrom position [b] (some p) r
    | none => some ⟨.start, position, [b]⟩
  | some p, b :: r =>
    if p.low ≤ b ∧ b ≤ p.high then
      if p.owed ≤ 1 then faultFrom (position + begun.length + 1) [] none r
      else faultFrom position (b :: begun) (feed (some p) b).2 r
    else some ⟨.continuation, position, begun.reverse⟩

def fault? (octets : List Nat) : Option Fault := faultFrom 0 [] none octets

/-! ## The two agree -/

theorem toNat_lt (c : Char) : c.toNat < 0x110000 := by
  have h := c.valid
  simp only [UInt32.isValidChar, Nat.isValidChar] at h
  simp only [Char.toNat]
  omega

theorem toNat_not_surrogate (c : Char) : c.toNat < 0xd800 ∨ 0xdfff < c.toNat := by
  have h := c.valid
  simp only [UInt32.isValidChar, Nat.isValidChar] at h
  simp only [Char.toNat]
  omega

/-- The octets that complete what is pending, and the number that its bits make up. -/
inductive Completes : Pending → List Nat → Nat → Prop
  | last {p : Pending} {b : Nat} (low : p.low ≤ b) (high : b ≤ p.high) (owed : p.owed ≤ 1) :
      Completes p [b] (p.bits * 64 + (b - 0x80))
  | more {p : Pending} {b n : Nat} {r : List Nat} (low : p.low ≤ b) (high : b ≤ p.high)
      (owed : 1 < p.owed)
      (rest : Completes ⟨p.bits * 64 + (b - 0x80), p.owed - 1, 0x80, 0xbf⟩ r n) :
      Completes p (b :: r) n

theorem lead_two {a : Nat} (low : 2 ≤ a) (high : a < 32) :
    lead (0xc0 + a) = some ⟨a, 1, 0x80, 0xbf⟩ := by
  rw [lead, if_pos (by omega)]
  simp

theorem lead_three {a b : Nat} (high : a < 16) (tail : b < 64) (first : a = 0 → 32 ≤ b)
    (gap : a = 13 → b < 32) : ∃ low high, lead (0xe0 + a) = some ⟨a, 2, low, high⟩ ∧
      low ≤ 0x80 + b ∧ 0x80 + b ≤ high := by
  unfold lead
  rw [if_neg (by omega)]
  by_cases h₀ : a = 0
  · subst h₀
    exact ⟨0xa0, 0xbf, by simp, by omega, by omega⟩
  rw [if_neg (by omega)]
  by_cases h₁ : a = 13
  · subst h₁
    exact ⟨0x80, 0x9f, by simp, by omega, by omega⟩
  rw [if_neg (by omega), if_pos (by omega)]
  exact ⟨0x80, 0xbf, by simp, by omega, by omega⟩

theorem lead_four {a b : Nat} (high : a < 5) (tail : b < 64) (first : a = 0 → 16 ≤ b)
    (last : a = 4 → b < 16) : ∃ low high, lead (0xf0 + a) = some ⟨a, 3, low, high⟩ ∧
      low ≤ 0x80 + b ∧ 0x80 + b ≤ high := by
  unfold lead
  rw [if_neg (by omega), if_neg (by omega), if_neg (by omega), if_neg (by omega)]
  by_cases h₀ : a = 0
  · subst h₀
    exact ⟨0x90, 0xbf, by simp, by omega, by omega⟩
  rw [if_neg (by omega)]
  by_cases h₄ : a = 4
  · subst h₄
    exact ⟨0x80, 0x8f, by simp, by omega, by omega⟩
  rw [if_pos (by omega)]
  exact ⟨0x80, 0xbf, by simp, by omega, by omega⟩

theorem completes_two {a b : Nat} (tail : b < 64) :
    Completes ⟨a, 1, 0x80, 0xbf⟩ [0x80 + b] (a * 64 + b) := by
  have last := Completes.last (p := ⟨a, 1, 0x80, 0xbf⟩) (b := 0x80 + b) (by simp)
    (by simp; omega) (Nat.le_refl 1)
  rwa [Nat.add_sub_cancel_left] at last

theorem completes_more {p : Pending} {a b n : Nat} {r : List Nat} (low : p.low ≤ 0x80 + b)
    (high : 0x80 + b ≤ p.high) (owed : 1 < p.owed) (bits : p.bits * 64 + b = a)
    (rest : Completes ⟨a, p.owed - 1, 0x80, 0xbf⟩ r n) : Completes p ((0x80 + b) :: r) n := by
  refine .more low high owed ?_
  rwa [Nat.add_sub_cancel_left, bits]

theorem encodeChar_cases (c : Char) :
    c.toNat < 0x80 ∧ encodeChar c = [c.toNat] ∨
      ∃ b r p, encodeChar c = b :: r ∧ 0x80 ≤ b ∧ lead b = some p ∧ Completes p r c.toNat := by
  have top := toNat_lt c
  have gap := toNat_not_surrogate c
  unfold encodeChar
  split
  · exact Or.inl ⟨‹_›, rfl⟩
  split
  · refine Or.inr ⟨_, _, _, rfl, by omega, lead_two (by omega) (by omega), ?_⟩
    have last := completes_two (a := c.toNat / 64) (b := c.toNat % 64) (by omega)
    rwa [show c.toNat / 64 * 64 + c.toNat % 64 = c.toNat by omega] at last
  split
  · obtain ⟨low, high, lead_eq, below, above⟩ := lead_three (a := c.toNat / 4096)
      (b := c.toNat / 64 % 64) (by omega) (by omega) (by omega) (by omega)
    refine Or.inr ⟨_, _, _, rfl, by omega, lead_eq, ?_⟩
    refine completes_more (a := c.toNat / 64) below above (by simp) (by simp; omega) ?_
    have last := completes_two (a := c.toNat / 64) (b := c.toNat % 64) (by omega)
    rwa [show c.toNat / 64 * 64 + c.toNat % 64 = c.toNat by omega] at last
  · obtain ⟨low, high, lead_eq, below, above⟩ := lead_four (a := c.toNat / 262144)
      (b := c.toNat / 4096 % 64) (by omega) (by omega) (by omega) (by omega)
    refine Or.inr ⟨_, _, _, rfl, by omega, lead_eq, ?_⟩
    refine completes_more (a := c.toNat / 4096) below above (by simp) (by simp; omega) ?_
    refine completes_more (a := c.toNat / 64) (by simp) (by simp; omega) (by simp)
      (by simp; omega) ?_
    have last := completes_two (a := c.toNat / 64) (b := c.toNat % 64) (by omega)
    rwa [show c.toNat / 64 * 64 + c.toNat % 64 = c.toNat by omega] at last

theorem feedAll_of_completes {p : Pending} {r : List Nat} {n : Nat} (h : Completes p r n) :
    feedAll (some p) r = ([Char.ofNat n], none) := by
  induction h with
  | last low high owed => simp [feedAll, feed, low, high, owed]
  | @more p b n r low high owed rest ih =>
    rw [feedAll, feed, if_pos ⟨low, high⟩, if_neg (by omega), ih]
    rfl

theorem feedAll_encodeChar (c : Char) : feedAll none (encodeChar c) = ([c], none) := by
  rcases encodeChar_cases c with ⟨ascii, octet⟩ | ⟨b, r, p, octets, high, lead_eq, completes⟩
  · simp [octet, feedAll, feed, begin, ascii, Char.ofNat_toNat]
  · have first : feed none b = ([], some p) := by
      rw [feed, begin, if_neg (by omega), lead_eq]
    rw [octets, feedAll, first, feedAll_of_completes completes, Char.ofNat_toNat]
    rfl

theorem encodeChar_lt {c : Char} {b : Nat} (mem : b ∈ encodeChar c) : b < 256 := by
  have top := toNat_lt c
  unfold encodeChar at mem
  split at mem
  · simp at mem
    omega
  split at mem
  · simp at mem
    omega
  split at mem <;> simp at mem <;> omega

theorem octets_toNat (s : String) : (octets s).map (·.toNat) = encode s.toList := by
  have same : ∀ b ∈ encode s.toList, (UInt8.ofNat b).toNat = b := by
    intro b mem
    obtain ⟨c, -, mem⟩ := List.mem_flatMap.1 mem
    rw [UInt8.toNat_ofNat', Nat.mod_eq_of_lt (encodeChar_lt mem)]
  rw [octets, List.map_map]
  exact (List.map_congr_left same).trans (List.map_id _)

end PagedCatalogue.Text.Utf8

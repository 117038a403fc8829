/-!
# Punycode

Punycode writes a text in ASCII letters, digits and hyphens: its ASCII characters first, and then,
as differences, where each of the others stands. Text is a list of code points.
-/

namespace PagedCatalogue.Text.Punycode

def digit (d : Nat) : Nat := if d < 26 then 0x61 + d else 0x30 + (d - 26)

def digitValue? (n : Nat) : Option Nat :=
  if 0x61 ≤ n ∧ n ≤ 0x7a then some (n - 0x61)
  else if 0x41 ≤ n ∧ n ≤ 0x5a then some (n - 0x41)
  else if 0x30 ≤ n ∧ n ≤ 0x39 then some (n - 0x30 + 26)
  else none

def threshold (bias place : Nat) : Nat := max 1 (min 26 (place - bias))

def numeral (bias place n : Nat) : List Nat :=
  let t := threshold bias place
  if n < t then [digit n]
  else digit (t + (n - t) % (36 - t)) :: numeral bias (place + 36) ((n - t) / (36 - t))
termination_by n
decreasing_by
  have le := Nat.div_le_self (n - threshold bias place) (36 - threshold bias place)
  have pos : 1 ≤ threshold bias place := Nat.le_max_left 1 _
  omega

def readNumeral (bias place weight : Nat) : List Nat → Option (Nat × List Nat)
  | [] => none
  | c :: r =>
    match digitValue? c with
    | none => none
    | some d =>
      if d < threshold bias place then some (d * weight, r)
      else
        (readNumeral bias (place + 36) (weight * (36 - threshold bias place)) r).map
          fun (n, r) => (d * weight + n, r)

theorem length_lt_of_readNumeral {cs r : List Nat} {bias place weight n : Nat}
    (h : readNumeral bias place weight cs = some (n, r)) : r.length < cs.length := by
  induction cs generalizing place weight n with
  | nil => simp [readNumeral] at h
  | cons c cs ih =>
    unfold readNumeral at h
    split at h
    · simp at h
    split at h
    · cases h
      exact Nat.lt_succ_self _
    · obtain ⟨⟨m, s⟩, hs, eq⟩ := Option.map_eq_some_iff.1 h
      cases eq
      exact Nat.lt_succ_of_lt (ih hs)

def settle (bias delta : Nat) : Nat :=
  if 455 < delta then settle (bias + 36) (delta / 35) else bias + 36 * delta / (delta + 38)
termination_by delta
decreasing_by omega

def adapt (first : Bool) (delta length : Nat) : Nat :=
  let scaled := if first then delta / 700 else delta / 2
  settle 0 (scaled + scaled / length)

structure Writing where
  done : List Nat
  delta : Nat
  bias : Nat
  count : Nat

def visit (plain point : Nat) (w : Writing) (n : Nat) : Writing :=
  if n < point then { w with delta := w.delta + 1 }
  else if n = point then
    { done := w.done ++ numeral w.bias 36 w.delta
      delta := 0
      bias := adapt (w.count = plain) w.delta (w.count + 1)
      count := w.count + 1 }
  else w

def places (text : List Nat) (plain : Nat) : Nat → List Nat → Writing → List Nat
  | _, [], w => w.done
  | start, point :: r, w =>
    let w := text.foldl (visit plain point)
      { w with delta := w.delta + (point - start) * (w.count + 1) }
    places text plain (point + 1) r { w with delta := w.delta + 1 }

def encode (text : List Nat) : List Nat :=
  let plain := text.filter (· < 0x80)
  let points := ((text.filter (0x80 ≤ ·)).mergeSort (· ≤ ·)).eraseDups
  (if plain.isEmpty then [] else plain ++ [0x2d]) ++
    places text plain.length 0x80 points ⟨[], 0, 72, plain.length⟩

/-- Puts the characters that some differences stand for into a text. The position is where the next
search begins. -/
def insertAll (text : List Nat) (point position bias : Nat) (first : Bool) (cs : List Nat) :
    Option (List Nat) :=
  if cs.isEmpty then some text
  else match h : readNumeral bias 36 1 cs with
  | none => none
  | some (delta, r) =>
    let place := position + delta
    let size := text.length + 1
    let point := point + place / size
    if 0x10ffff < point then none
    else
      insertAll (text.take (place % size) ++ point :: text.drop (place % size)) point
        (place % size + 1) (adapt first delta size) false r
termination_by cs.length
decreasing_by exact length_lt_of_readNumeral h

def decode? (cs : List Nat) : Option (List Nat) :=
  let differences := (cs.reverse.takeWhile (· != 0x2d)).reverse
  insertAll (cs.take (cs.length - differences.length - 1)) 0x80 0 72 true differences

end PagedCatalogue.Text.Punycode

import PagedCatalogue.Text.Point

/-!
# The encoding of a JSON text

A byte order mark tells how some octets are encoded. Where there is none, the zero octets among the
first four do, since the text begins with an ASCII character. Half of a pair may stand by itself in
each of the encodings, against their rules.
-/

namespace PagedCatalogue.Json

open Text

inductive Order
  | bigFirst | littleFirst
deriving DecidableEq, Repr

inductive Encoding
  | utf8
  | utf16 (order : Order)
  | utf32 (order : Order)
deriving DecidableEq, Repr

def unmarkedEncoding : List Nat → Encoding
  | 0 :: 0 :: _ :: _ :: _ => .utf32 .bigFirst
  | 0 :: _ :: _ :: _ :: _ => .utf16 .bigFirst
  | _ :: 0 :: 0 :: 0 :: _ => .utf32 .littleFirst
  | _ :: 0 :: _ :: _ :: _ => .utf16 .littleFirst
  | [0, _] => .utf16 .bigFirst
  | [_, 0] => .utf16 .littleFirst
  | _ => .utf8

def encodingOf : List Nat → Encoding × List Nat
  | 0 :: 0 :: 0xfe :: 0xff :: r => (.utf32 .bigFirst, r)
  | 0xff :: 0xfe :: 0 :: 0 :: r => (.utf32 .littleFirst, r)
  | 0xfe :: 0xff :: r => (.utf16 .bigFirst, r)
  | 0xff :: 0xfe :: r => (.utf16 .littleFirst, r)
  | 0xef :: 0xbb :: 0xbf :: r => (.utf8, r)
  | octets => (unmarkedEncoding octets, octets)

def leadPoint (b : Nat) : Option Utf8.Pending :=
  (Utf8.lead b).map fun p => if b = 0xed then { p with high := 0xbf } else p

def points8 : Option Utf8.Pending → List Nat → Option (List Point)
  | none, [] => some []
  | some _, [] => none
  | none, b :: r =>
    if b < 0x80 then (points8 none r).map (.char (Char.ofNat b) :: ·)
    else match leadPoint b with
    | some p => points8 (some p) r
    | none => none
  | some p, b :: r =>
    if p.low ≤ b ∧ b ≤ p.high then
      if p.owed ≤ 1 then (points8 none r).map (.ofNat (p.bits * 64 + (b - 0x80)) :: ·)
      else points8 (some ⟨p.bits * 64 + (b - 0x80), p.owed - 1, 0x80, 0xbf⟩) r
    else none

def unit2 : Order → Nat → Nat → Nat
  | .bigFirst, a, b => a * 0x100 + b
  | .littleFirst, a, b => b * 0x100 + a

def units16 (order : Order) : List Nat → Option (List Point)
  | [] => some []
  | a :: b :: r => (units16 order r).map (.ofNat (unit2 order a b) :: ·)
  | [_] => none

def points32 (order : Order) : List Nat → Option (List Point)
  | [] => some []
  | a :: b :: c :: d :: r =>
    let n := match order with
      | .bigFirst => unit2 order a b * 0x10000 + unit2 order c d
      | .littleFirst => unit2 order c d * 0x10000 + unit2 order a b
    if n ≤ 0x10ffff then (points32 order r).map (.ofNat n :: ·) else none
  | _ => none

/-- A part of a string: a code point that stands for itself, or a code unit, of which two may be the
halves of a pair. -/
inductive Piece
  | point (p : Point)
  | unit (p : Point)
deriving DecidableEq, Repr

def join : List Piece → List Point
  | .unit (.high high) :: .unit (.low low) :: r => .char (Point.pair high low) :: join r
  | .unit p :: r => p :: join r
  | .point p :: r => p :: join r
  | [] => []

def received (octets : List Nat) : Option (List Point) :=
  match encodingOf octets with
  | (.utf8, r) => points8 none r
  | (.utf16 order, r) => (units16 order r).map fun units => join (units.map .unit)
  | (.utf32 order, r) => points32 order r

end PagedCatalogue.Json

import PagedCatalogue.Text.Blank
import PagedCatalogue.Text.Decimal

/-!
# Integers as people write them

An integer may have white space around it, a sign, single underscores between digits, and a fraction
of zeros alone. Zeros in front do not count, nor do underscores among them, and a minus sign may
stand behind them instead of in front.
-/

namespace PagedCatalogue.Text.Integer

inductive Fault
  | notInteger
  | tooLong
deriving DecidableEq, Repr

/-- The integer of a minus sign or none and of digits without a zero in front. Too many digits are
too many whatever follows them. -/
def plain (cs : List Char) : Except Fault Int :=
  let negative := cs.head? == some '-'
  let magnitude := if negative then cs.drop 1 else cs
  let ds := magnitude.takeWhile Char.isDigit
  if ds.head? == some '0' || ds.isEmpty then
    if magnitude = ['0'] then .ok 0 else .error .notInteger
  else if Decimal.maxDigits < ds.length + (if negative then 1 else 0) then .error .tooLong
  else if ds.length = magnitude.length then .ok (Decimal.signed negative (Decimal.value ds))
  else .error .notInteger

/-- A text behind the zeros in front of it and the underscores among them. The last of these stays
where nothing follows, or a point. -/
def dropZerosAfter (last : Char) : List Char → Option (List Char)
  | [] => some [last]
  | c :: r =>
    if c = '0' ∨ c = '_' then dropZerosAfter c r
    else if c = '.' then some (last :: c :: r)
    else if c = '-' ∨ c.isDigit = true then some (c :: r)
    else none

def dropZeros : List Char → Option (List Char)
  | [] => none
  | c :: r =>
    if c = '0' then dropZerosAfter c r
    else if c.isDigit then some (c :: r)
    else none

def dropFraction (cs : List Char) : List Char :=
  let zeros := (cs.dropWhile (· != '.')).drop 1
  if !zeros.isEmpty && zeros.all (· == '0') then cs.takeWhile (· != '.') else cs

def hasGap : List Char → Bool
  | '_' :: '_' :: _ => true
  | _ :: r => hasGap r
  | [] => false

def dropUnderscores (cs : List Char) : List Char :=
  if cs.head? == some '_' || cs.getLast? == some '_' || hasGap cs then cs
  else cs.filter (· != '_')

def cleaned (cs : List Char) : Option (List Char) :=
  let (negative, magnitude) := Decimal.splitSign cs
  (dropZeros magnitude).map fun r =>
    let r := dropUnderscores (dropFraction r)
    if negative then '-' :: r else r

def read (s : String) : Except Fault Int :=
  let cs := trim isWhiteSpace s.toList
  match plain cs with
  | .error .notInteger => ((cleaned cs).map plain).getD (.error .notInteger)
  | answer => answer

end PagedCatalogue.Text.Integer

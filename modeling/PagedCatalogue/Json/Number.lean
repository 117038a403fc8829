import PagedCatalogue.Json.Basic
import PagedCatalogue.Text.Query

namespace PagedCatalogue.Json

open Text

/-- The number `digits * 10 ^ exponent`, whose digits have no zero in front. -/
structure Scientific where
  negative : Bool
  digits : List Char
  exponent : Int
deriving DecidableEq, Repr

namespace Scientific

def ofLiteral (cs : List Char) : Scientific :=
  let (negative, magnitude) := Decimal.splitSign cs
  let isMark (c : Char) : Bool := c == 'e' || c == 'E'
  let (whole, fraction) := Query.cut '.' (magnitude.takeWhile (!isMark ·))
  let (below, power) := Decimal.splitSign ((magnitude.dropWhile (!isMark ·)).drop 1)
  { negative := negative
    digits := (whole ++ fraction).dropWhile (· == '0')
    exponent := Decimal.signed below (Decimal.value power) - fraction.length }

def top (x : Scientific) : Int := x.digits.length + x.exponent

/-- What lies half a unit above the largest double, which is rounded to infinity. -/
def bound : Nat := (1 <<< 1024) - (1 <<< 970)

def isFinite (x : Scientific) : Bool :=
  x.digits.isEmpty || x.top < 309 || (x.top = 309 &&
    match x.exponent with
    | .ofNat e => Decimal.value x.digits * Nat.pow 10 e < bound
    | .negSucc e => Decimal.value x.digits < bound * Nat.pow 10 (e + 1))

/-- The double nearest to a number. Below the powers of ten that doubles have, that is zero. -/
def toFloat (x : Scientific) : Float :=
  let magnitude :=
    if !x.isFinite then 1.0 / 0.0
    else if x.digits.isEmpty || x.top < -400 then 0.0
    else Float.ofScientific (Decimal.value x.digits) (x.exponent < 0) x.exponent.natAbs
  if x.negative then -magnitude else magnitude

end Scientific

def isWhole (literal : List Char) : Bool := Decimal.isDigits (Decimal.splitSign literal).2

def double : String → Float
  | "NaN" => 0.0 / 0.0
  | "Infinity" => 1.0 / 0.0
  | "-Infinity" => -1.0 / 0.0
  | literal => (Scientific.ofLiteral literal.toList).toFloat

def isFiniteLiteral (literal : String) : Bool :=
  literal != "NaN" && literal != "Infinity" && literal != "-Infinity" &&
    (isWhole literal.toList || (Scientific.ofLiteral literal.toList).isFinite)

section

variable (number : String → Bool) (text : List Point → Bool)

mutual

def everyWritten : Json → Bool
  | .number literal => number literal
  | .string s => text s
  | .array items => everyItem items
  | .object members => everyMember members
  | _ => true

def everyItem : List Json → Bool
  | [] => true
  | item :: items => everyWritten item && everyItem items

/-- Of members of one name the last is written, and those whose names begin with `_sa` are internal
and not written at all. -/
def everyMember : List (List Point × Json) → Bool
  | [] => true
  | (name, value) :: members =>
    ((points "_sa".toList).isPrefixOf name ||
      (text name && (everyWritten value || members.any (·.1 == name)))) &&
      everyMember members

end

end

mutual

def height : Json → Nat
  | .array items => heightItems items + 1
  | .object members => heightMembers members + 1
  | _ => 0

def heightItems : List Json → Nat
  | [] => 0
  | item :: items => max item.height (heightItems items)

def heightMembers : List (List Point × Json) → Nat
  | [] => 0
  | (name, value) :: members =>
    if (points "_sa".toList).isPrefixOf name || members.any (·.1 == name) then heightMembers members
    else max value.height (heightMembers members)

end

def isFinite (v : Json) : Bool := everyWritten isFiniteLiteral (fun _ => true) v

def isUnbroken (v : Json) : Bool := everyWritten (fun _ => true) (·.all Point.isChar) v

end PagedCatalogue.Json

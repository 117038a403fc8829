import PagedCatalogue.Text.Decimal

namespace PagedCatalogue.Text.FixedPoint

def roundedQuotient (num den : Nat) : Nat :=
  let q := num / den
  let twice := 2 * (num % den)
  if twice < den then q
  else if den < twice then q + 1
  else if q % 2 = 0 then q else q + 1

def pointed (places units : Nat) : List Char :=
  let ds := Decimal.digits units
  let padded := List.replicate (places + 1 - ds.length) '0' ++ ds
  let cut := padded.length - places
  if places = 0 then padded else padded.take cut ++ '.' :: padded.drop cut

def scaled (places mantissa : Nat) (exponent : Int) : Nat :=
  match exponent with
  | .ofNat e => (mantissa <<< e) * Nat.pow 10 places
  | .negSucc e => roundedQuotient (mantissa * Nat.pow 10 places) (1 <<< (e + 1))

/-- The text of a double by its bits: a sign, eleven bits of exponent and fifty-two of fraction. -/
def ofBits (places bits : Nat) : List Char :=
  let sign := if bits >>> 63 = 1 then ['-'] else []
  let exponent : Nat := (bits >>> 52) % 0x800
  let fraction : Nat := bits % 0x10000000000000
  if exponent = 2047 then
    if fraction = 0 then sign ++ "inf".toList else "nan".toList
  else if exponent = 0 then sign ++ pointed places (scaled places fraction (-1074))
  else
    let mantissa := 0x10000000000000 + fraction
    sign ++ pointed places (scaled places mantissa ((exponent : Int) - 1075))

def ofFloat (places : Nat) (x : Float) : String := String.ofList (ofBits places x.toBits.toNat)

end PagedCatalogue.Text.FixedPoint

import PagedCatalogue.Text.Blank
import PagedCatalogue.Text.Decimal
import PagedCatalogue.Text.DecimalDigit

namespace PagedCatalogue.Text.Numeral

def normal (s : String) : List Char := trim isWhiteSpace (toAsciiDigits s.toList)

def integer? (s : String) : Option Int :=
  let (negative, magnitude) := Decimal.splitSign (normal s)
  match Decimal.ungroup magnitude with
  | some ds =>
    if ds.length ≤ Decimal.maxDigits then some (Decimal.signed negative (Decimal.value ds))
    else none
  | none => none

/-- A text without the underscores between its digits; none if there is another underscore. The
first argument says whether a digit stands right before. -/
def joinGroups : Bool → List Char → Option (List Char)
  | _, [] => some []
  | afterDigit, '_' :: d :: r =>
    if afterDigit && d.isDigit then (joinGroups true r).map (d :: ·) else none
  | _, ['_'] => none
  | _, c :: r => (joinGroups c.isDigit r).map (c :: ·)

def dropDigits (cs : List Char) : Bool × List Char :=
  (cs.head?.any Char.isDigit, cs.dropWhile Char.isDigit)

def isExponent : List Char → Bool
  | [] => true
  | c :: r => (c == 'e' || c == 'E') && Decimal.isDigits (Decimal.splitSign r).2

def isMagnitude (cs : List Char) : Bool :=
  let (whole, r) := dropDigits cs
  match r with
  | '.' :: r =>
    let (fraction, r) := dropDigits r
    (whole || fraction) && isExponent r
  | r => whole && isExponent r

def isWord (cs : List Char) : Bool :=
  ["inf", "infinity", "nan"].contains (String.ofList (cs.map Char.toLower))

def isReal (s : String) : Bool :=
  match joinGroups false (normal s) with
  | some cs => isWord (Decimal.splitSign cs).2 || isMagnitude (Decimal.splitSign cs).2
  | none => false

end PagedCatalogue.Text.Numeral

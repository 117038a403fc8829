namespace PagedCatalogue.Text.Decimal

def maxDigits : Nat := 4300

def digits (n : Nat) : List Char := Nat.toDigits 10 n

def write : Int → List Char
  | .ofNat n => digits n
  | .negSucc n => '-' :: digits (n + 1)

def text (n : Int) : String := String.ofList (write n)

def value (ds : List Char) : Nat := Nat.ofDigitChars 10 ds 0

def isDigits (ds : List Char) : Bool := !ds.isEmpty && ds.all Char.isDigit

def splitSign : List Char → Bool × List Char
  | '-' :: r => (true, r)
  | '+' :: r => (false, r)
  | cs => (false, cs)

def signed (negative : Bool) (n : Nat) : Int := if negative then -(n : Int) else n

inductive Fault
  | notNumeral (text : List Char)
  | tooManyDigits (count : Nat)
deriving DecidableEq, Repr

def readDigits (ds : List Char) : Except Fault Nat :=
  if ds.length ≤ maxDigits then .ok (value ds) else .error (.tooManyDigits ds.length)

def read (cs : List Char) : Except Fault Int :=
  if isDigits (splitSign cs).2 then
    (readDigits (splitSign cs).2).map (signed (splitSign cs).1)
  else .error (.notNumeral cs)

/-- Digits with single underscores between them, freed of the underscores. The flag says whether a
digit stands right before. -/
def ungroupFrom : Bool → List Char → Option (List Char)
  | afterDigit, [] => if afterDigit then some [] else none
  | afterDigit, c :: r =>
    if c.isDigit then (ungroupFrom true r).map (c :: ·)
    else if afterDigit && c == '_' then ungroupFrom false r
    else none

def ungroup (cs : List Char) : Option (List Char) := ungroupFrom false cs

theorem value_digits (n : Nat) : value (digits n) = n := Nat.ofDigitChars_ten_toDigits

theorem digits_ne_nil (n : Nat) : digits n ≠ [] := Nat.toDigits_ne_nil

theorem isDigit_of_mem_digits {n : Nat} {c : Char} (h : c ∈ digits n) : c.isDigit = true :=
  Nat.isDigit_of_mem_toDigits (by decide) (by decide) h

theorem isDigits_digits (n : Nat) : isDigits (digits n) = true := by
  simp only [isDigits, Bool.and_eq_true, Bool.not_eq_true', List.isEmpty_eq_false_iff,
    List.all_eq_true]
  exact ⟨digits_ne_nil n, fun _ h => isDigit_of_mem_digits h⟩

end PagedCatalogue.Text.Decimal

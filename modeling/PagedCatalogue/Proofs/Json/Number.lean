import PagedCatalogue.Json.Number
import PagedCatalogue.Json.Reader
import PagedCatalogue.Proofs.Text.Decimal

namespace PagedCatalogue.Json

open Text

/-! ## The grammar -/

inductive IsWholePart : List Char → Prop
  | zero : IsWholePart ['0']
  | digits {ds : List Char} (digits : Decimal.isDigits ds = true) (first : ds.head? ≠ some '0') :
      IsWholePart ds

inductive IsFraction : List Char → Prop
  | absent : IsFraction []
  | present {ds : List Char} (digits : Decimal.isDigits ds = true) : IsFraction ('.' :: ds)

inductive IsExponent : List Char → Prop
  | absent : IsExponent []
  | present {mark : Char} {sign ds : List Char} (marked : mark = 'e' ∨ mark = 'E')
      (signed : sign = [] ∨ sign = ['-'] ∨ sign = ['+']) (digits : Decimal.isDigits ds = true) :
      IsExponent (mark :: (sign ++ ds))

structure Numeral where
  sign : List Char
  whole : List Char
  point : List Char
  power : List Char
  isSign : sign = [] ∨ sign = ['-']
  isWholePart : IsWholePart whole
  isFraction : IsFraction point
  isExponent : IsExponent power

namespace Numeral

def text (n : Numeral) : List Char := n.sign ++ n.whole ++ n.point ++ n.power

end Numeral

def isOverlong (literal : List Char) : Bool :=
  isWhole literal && Decimal.maxDigits < (Decimal.splitSign literal).2.length

def Ends (r : List Char) : Prop := ∀ c ∈ r.head?, c = ',' ∨ c = ']' ∨ c = '\x7d'

variable {ds r whole point power : List Char} {c : Char}

/-! ## Digits -/

theorem all_isDigit (digits : Decimal.isDigits ds = true) : ds.all Char.isDigit = true := by
  rw [Decimal.isDigits, Bool.and_eq_true] at digits
  exact digits.2

theorem isDigit_of_mem (digits : Decimal.isDigits ds = true) (mem : c ∈ ds) :
    c.isDigit = true :=
  List.all_eq_true.1 (all_isDigit digits) c mem

theorem exists_cons_of_isDigits (digits : Decimal.isDigits ds = true) :
    ∃ d r, ds = d :: r ∧ d.isDigit = true := by
  cases ds with
  | nil => cases digits
  | cons d r => exact ⟨d, r, rfl, Decimal.isDigit_of_isDigits digits⟩

theorem digitsOf_append (digits : ∀ d ∈ ds, d.isDigit = true)
    (apart : ∀ c ∈ r.head?, c.isDigit = false) : digitsOf (ds ++ r) = (ds, r) := by
  rw [digitsOf, List.takeWhile_append_of_pos digits, List.dropWhile_append_of_pos digits]
  cases r with
  | nil => simp
  | cons c r => simp [apart c rfl]

theorem IsWholePart.exists_cons (h : IsWholePart whole) :
    ∃ d r, whole = d :: r ∧ d.isDigit = true := by
  cases h with
  | zero => exact ⟨'0', [], rfl, rfl⟩
  | digits digits first => exact exists_cons_of_isDigits digits

theorem IsWholePart.all_isDigit (h : IsWholePart whole) : whole.all Char.isDigit = true := by
  cases h with
  | zero => rfl
  | digits digits first => exact Json.all_isDigit digits

/-! ## Parts -/

theorem wholePart?_append (h : IsWholePart whole) (apart : ∀ c ∈ r.head?, c.isDigit = false) :
    wholePart? (whole ++ r) = some (whole, r) := by
  cases h with
  | zero => rfl
  | digits digits first =>
    obtain ⟨d, r', rfl, digit⟩ := exists_cons_of_isDigits digits
    have nonzero : d ≠ '0' := fun eq => first (by rw [eq]; rfl)
    have split := digitsOf_append (fun _ => isDigit_of_mem digits) apart
    rw [List.cons_append] at split ⊢
    rw [wholePart?, if_pos digit, split]
    exact fun eq => absurd eq nonzero

theorem fraction_append (h : IsFraction point)
    (apart : ∀ c ∈ r.head?, c.isDigit = false ∧ c ≠ '.') : fraction (point ++ r) = (point, r) := by
  cases h with
  | absent =>
    rw [List.nil_append]
    unfold fraction
    split
    · exact absurd rfl (apart '.' rfl).2
    · rfl
  | present digits =>
    obtain ⟨d, r', rfl, -⟩ := exists_cons_of_isDigits digits
    have split := digitsOf_append (fun _ => isDigit_of_mem digits) fun c mem => (apart c mem).1
    rw [List.cons_append, fraction, split]
    rfl

theorem exponentSign_append {sign : List Char} (signed : sign = [] ∨ sign = ['-'] ∨ sign = ['+'])
    (digits : Decimal.isDigits ds = true) : exponentSign (sign ++ ds) = (sign, ds) := by
  obtain ⟨d, r', rfl, digit⟩ := exists_cons_of_isDigits digits
  rcases signed with rfl | rfl | rfl
  · have minus : d ≠ '-' := by rintro rfl; cases digit
    have plus : d ≠ '+' := by rintro rfl; cases digit
    rw [List.nil_append]
    unfold exponentSign
    split <;> simp_all
  · rfl
  · rfl

theorem exponent_eq (h : IsExponent power) : exponent power = (power, []) := by
  cases h with
  | absent => rfl
  | present marked signed digits =>
    have split := digitsOf_append (r := []) (fun _ => isDigit_of_mem digits) nofun
    rw [List.append_nil] at split
    have sign := exponentSign_append signed digits
    obtain ⟨d, r', rfl, -⟩ := exists_cons_of_isDigits digits
    simp only [exponent, sign, split, marked, List.isEmpty_cons, Bool.not_false, and_self, if_true]

/-! ## The whole number -/

theorem Ends.head (ends : Ends r) (mem : c ∈ r.head?) : isNumeric c = false := by
  rcases ends c mem with rfl | rfl | rfl <;> decide

theorem IsExponent.head (h : IsExponent power) (mem : c ∈ power.head?) :
    c.isDigit = false ∧ c ≠ '.' := by
  cases h with
  | absent => cases mem
  | present marked signed digits =>
    cases mem
    rcases marked with rfl | rfl <;> decide

theorem IsFraction.head (h : IsFraction point) (isExponent : IsExponent power)
    (mem : c ∈ (point ++ power).head?) : c.isDigit = false := by
  cases h with
  | absent => exact (isExponent.head mem).1
  | present digits =>
    cases mem
    rfl

/-! ## The text of a numeral -/

theorem run_points {class_ : Char → Bool} {front : List Char}
    (inside : ∀ c ∈ front, class_ c = true) (apart : ∀ c ∈ r.head?, class_ c = false) :
    run class_ (points (front ++ r)) = (front, points r) := by
  induction front with
  | nil =>
    cases r with
    | nil => rfl
    | cons c r => simp [points_cons, run, apart c rfl]
  | cons c front ih =>
    rw [List.cons_append, points_cons, run, if_pos (inside c List.mem_cons_self),
      ih fun c mem => inside c (List.mem_cons_of_mem _ mem)]

theorem isNumeric_of_isDigit (digit : c.isDigit = true) : isNumeric c = true := by
  simp [isNumeric, digit]

theorem IsFraction.isNumeric (h : IsFraction point) (mem : c ∈ point) : isNumeric c = true := by
  cases h with
  | absent => cases mem
  | present digits =>
    rcases List.mem_cons.1 mem with rfl | mem
    · rfl
    · exact isNumeric_of_isDigit (isDigit_of_mem digits mem)

theorem IsExponent.isNumeric (h : IsExponent power) (mem : c ∈ power) : isNumeric c = true := by
  cases h with
  | absent => cases mem
  | present marked signed digits =>
    rcases List.mem_cons.1 mem with rfl | mem
    · rcases marked with rfl | rfl <;> rfl
    rcases List.mem_append.1 mem with mem | mem
    · rcases signed with rfl | rfl | rfl <;> simp at mem <;> subst mem <;> rfl
    · exact isNumeric_of_isDigit (isDigit_of_mem digits mem)

theorem readWord?_digit (digit : c.isDigit = true) : readWord? (points (c :: r)) = none := by
  have other (d : Char) (h : d.isDigit = false) : d ≠ c := by
    rintro rfl
    rw [digit] at h
    cases h
  simp [readWord?, words, points, after?, other]

theorem readWord?_minus (digit : c.isDigit = true) :
    readWord? (points ('-' :: c :: r)) = none := by
  have letter : 'I' ≠ c := by
    rintro rfl
    cases digit
  simp [readWord?, words, points, after?, letter]

theorem readScalar_digit (digit : c.isDigit = true) :
    readScalar (points (c :: r)) = readMagnitude (c :: r).length [] (points (c :: r)) := by
  have quote : c ≠ '"' := by rintro rfl; cases digit
  have minus : c ≠ '-' := by rintro rfl; cases digit
  rw [readScalar, readWord?_digit digit]
  · simp [points_cons, readNumber, minus, length_points]
  · intro _ h
    exact quote (Point.char.inj (List.cons.inj h).1)

theorem readScalar_minus (digit : c.isDigit = true) :
    readScalar (points ('-' :: c :: r)) =
      readMagnitude ((c :: r).length + 1) ['-'] (points (c :: r)) := by
  rw [readScalar, readWord?_minus digit]
  · simp [points_cons, readNumber, length_points]
  · nofun

namespace Numeral

theorem isNumeric_of_mem (n : Numeral) (mem : c ∈ n.whole ++ (n.point ++ n.power)) :
    isNumeric c = true := by
  rcases List.mem_append.1 mem with mem | mem
  · exact isNumeric_of_isDigit (List.all_eq_true.1 n.isWholePart.all_isDigit c mem)
  rcases List.mem_append.1 mem with mem | mem
  · exact n.isFraction.isNumeric mem
  · exact n.isExponent.isNumeric mem

def reading (n : Numeral) (r : List Char) : Except Stop (Json × List Point) :=
  if isOverlong n.text then .error .tooManyDigits
  else .ok (.number (String.ofList n.text), points r)

theorem splitSign_text (n : Numeral) :
    (Decimal.splitSign n.text).2 = n.whole ++ (n.point ++ n.power) := by
  obtain ⟨d, whole, whole_eq, digit⟩ := n.isWholePart.exists_cons
  have minus : d ≠ '-' := by rintro rfl; cases digit
  have plus : d ≠ '+' := by rintro rfl; cases digit
  rcases n.isSign with sign | sign
  · rw [text, sign, whole_eq]
    simp only [List.nil_append, List.cons_append, List.append_assoc]
    unfold Decimal.splitSign
    split <;> simp_all
  · simp only [text, sign, List.cons_append, List.nil_append, List.append_assoc]
    rfl

theorem isOverlong_text (n : Numeral) : isOverlong n.text =
    (n.point.isEmpty && n.power.isEmpty && decide (Decimal.maxDigits < n.whole.length)) := by
  have nonempty : (n.whole ++ (n.point ++ n.power)).isEmpty = false := by
    obtain ⟨d, whole, whole_eq, -⟩ := n.isWholePart.exists_cons
    rw [whole_eq]
    rfl
  rw [isOverlong, isWhole, splitSign_text, Decimal.isDigits, nonempty]
  simp only [Bool.not_false, Bool.true_and, List.all_append, n.isWholePart.all_isDigit]
  rcases n with ⟨sign, whole, point, power, isSign, isWholePart, isFraction, isExponent⟩
  -- A fraction or an exponent begins with a character that is not a digit.
  cases isFraction with
  | absent =>
    cases isExponent with
    | absent => simp
    | present marked signed digits => rcases marked with rfl | rfl <;> simp
  | present digits => simp

theorem text_append (n : Numeral) (r : List Char) :
    n.text ++ r = n.sign ++ (n.whole ++ (n.point ++ n.power) ++ r) := by
  simp only [text, List.append_assoc]

theorem readMagnitude_numeral (n : Numeral) (ends : Ends r) (start : Nat) :
    readMagnitude start n.sign (points (n.whole ++ (n.point ++ n.power) ++ r)) = n.reading r := by
  -- The characters of a numeral are set apart first, so nothing comes behind its parts.
  have front := run_points (fun _ => n.isNumeric_of_mem) fun c mem => ends.head mem
  have whole := wholePart?_append n.isWholePart fun c => n.isFraction.head n.isExponent
  have point := fraction_append n.isFraction fun c => n.isExponent.head
  simp only [readMagnitude, front, whole, point, exponent_eq n.isExponent, Bool.and_eq_true, decide_eq_true_eq,
    reading, isOverlong_text]
  rfl

theorem readScalar_numeral (n : Numeral) (ends : Ends r) :
    readScalar (points (n.text ++ r)) = n.reading r := by
  obtain ⟨d, whole, whole_eq, digit⟩ := n.isWholePart.exists_cons
  have magnitude := readMagnitude_numeral n ends
  rw [text_append]
  rw [whole_eq, List.cons_append, List.cons_append] at magnitude ⊢
  rcases n.isSign with sign | sign
  · rw [sign] at magnitude ⊢
    rw [List.nil_append, readScalar_digit digit, magnitude]
  · rw [sign] at magnitude ⊢
    rw [List.cons_append, List.nil_append, readScalar_minus digit, magnitude]

end Numeral

end PagedCatalogue.Json

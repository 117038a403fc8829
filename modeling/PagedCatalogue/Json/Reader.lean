import PagedCatalogue.Json.Basic
import PagedCatalogue.Json.Octets
import PagedCatalogue.Text.Hex
import PagedCatalogue.Text.Query

/-!
# Reading JSON

Beside the numbers of the grammar, `NaN`, `Infinity` and `-Infinity` are read. A malformed text
gives the position where reading stopped; while a text is read, a position is known by the number of
code points that are left.
-/

namespace PagedCatalogue.Json

open Text

inductive ReadFault
  | malformed (position : Nat)
  | tooManyDigits
  | tooDeep
deriving DecidableEq, Repr

/-- A fault with the number of code points that are left in place of the position. -/
inductive Stop
  | malformed (left : Nat)
  | tooManyDigits
  | tooDeep
deriving DecidableEq, Repr

def Stop.fault (length : Nat) : Stop → ReadFault
  | .malformed left => .malformed (length - left)
  | .tooManyDigits => .tooManyDigits
  | .tooDeep => .tooDeep

def isSpace (c : Char) : Bool := c = ' ' || c = '\t' || c = '\n' || c = '\r'

def skip (ps : List Point) : List Point := ps.dropWhile (·.isIn isSpace)

/-! ## Strings -/

def simpleEscape? : Char → Option Char
  | '"' => some '"'
  | '\\' => some '\\'
  | '/' => some '/'
  | 'b' => some '\x08'
  | 'f' => some '\x0c'
  | 'n' => some '\n'
  | 'r' => some '\r'
  | 't' => some '\t'
  | _ => none

def codeUnit? (ds : List Point) : Option Point :=
  (text? ds).bind fun s => (readHex s.toList).map .ofNat

def push (piece : Piece) (reading : Except Stop (List Piece × List Point)) :
    Except Stop (List Piece × List Point) :=
  reading.map fun (pieces, r) => (piece :: pieces, r)

/-- The parts of a string up to its closing quote. `opening` is what was left at the opening one. -/
def readPieces (opening : Nat) : List Point → Except Stop (List Piece × List Point)
  | [] => .error (.malformed opening)
  | .char '"' :: r => .ok ([], r)
  | [.char '\\'] => .error (.malformed opening)
  | .char '\\' :: .char 'u' :: a :: b :: c :: d :: r =>
    if r.isEmpty then .error (.malformed 5)
    else match codeUnit? [a, b, c, d] with
    | some p => push (.unit p) (readPieces opening r)
    | none => .error (.malformed (r.length + 5))
  | .char '\\' :: p :: r =>
    if p = .char 'u' then .error (.malformed (r.length + 1))
    else match p.char?.bind simpleEscape? with
    | some c => push (.point (.char c)) (readPieces opening r)
    | none => .error (.malformed (r.length + 2))
  | p :: r =>
    if p.toNat < 0x20 then .error (.malformed (r.length + 1))
    else push (.point p) (readPieces opening r)

def readString (ps : List Point) : Except Stop (List Point × List Point) :=
  (readPieces (ps.length + 1) ps).map fun (pieces, r) => (join pieces, r)

/-! ## Numbers -/

def isNumeric (c : Char) : Bool :=
  c.isDigit || c = '.' || c = '-' || c = '+' || c = 'e' || c = 'E'

def run (class_ : Char → Bool) : List Point → List Char × List Point
  | .char c :: r =>
    if class_ c then (c :: (run class_ r).1, (run class_ r).2) else ([], .char c :: r)
  | r => ([], r)

def digitsOf (cs : List Char) : List Char × List Char :=
  (cs.takeWhile Char.isDigit, cs.dropWhile Char.isDigit)

def wholePart? : List Char → Option (List Char × List Char)
  | '0' :: r => some (['0'], r)
  | c :: r => if c.isDigit then some (digitsOf (c :: r)) else none
  | [] => none

def fraction (cs : List Char) : List Char × List Char :=
  match cs with
  | '.' :: r => if (digitsOf r).1.isEmpty then ([], cs) else ('.' :: (digitsOf r).1, (digitsOf r).2)
  | _ => ([], cs)

def exponentSign : List Char → List Char × List Char
  | '-' :: r => (['-'], r)
  | '+' :: r => (['+'], r)
  | cs => ([], cs)

def exponent (cs : List Char) : List Char × List Char :=
  match cs with
  | c :: r =>
    let (sign, r) := exponentSign r
    if (c = 'e' ∨ c = 'E') ∧ !(digitsOf r).1.isEmpty then
      (c :: (sign ++ (digitsOf r).1), (digitsOf r).2)
    else ([], cs)
  | [] => ([], [])

/-- A number from its whole part on, after `sign`. `start` is what was left before the sign. -/
def readMagnitude (start : Nat) (sign : List Char) (ps : List Point) :
    Except Stop (Json × List Point) :=
  let (cs, behind) := run isNumeric ps
  match wholePart? cs with
  | none => .error (.malformed start)
  | some (whole, r) =>
    let (point, r) := fraction r
    let (power, r) := exponent r
    if point.isEmpty && power.isEmpty && Decimal.maxDigits < whole.length then
      .error .tooManyDigits
    else .ok (.number (String.ofList (sign ++ whole ++ point ++ power)), points r ++ behind)

/-! ## Values -/

def separator (closing : Char) (ps : List Point) : Except Stop (Bool × List Point) :=
  match skip ps with
  | p :: r =>
    if p = .char closing then .ok (true, r)
    else if p = .char ',' then .ok (false, skip r)
    else .error (.malformed (r.length + 1))
  | [] => .error (.malformed 0)

def readItems (value : List Point → Except Stop (Json × List Point)) :
    Nat → List Point → Except Stop (List Json × List Point)
  | 0, ps => .error (.malformed ps.length)
  | fuel + 1, ps => do
    let (item, r) ← value ps
    let (closed, r) ← separator ']' r
    if closed then return ([item], r)
    let (items, r) ← readItems value fuel r
    return (item :: items, r)

def readName : List Point → Except Stop (List Point × List Point)
  | .char '"' :: r => do
    let (name, r) ← readString r
    match skip r with
    | .char ':' :: r => return (name, skip r)
    | r => throw (.malformed r.length)
  | ps => .error (.malformed ps.length)

def readMembers (value : List Point → Except Stop (Json × List Point)) :
    Nat → List Point → Except Stop (List (List Point × Json) × List Point)
  | 0, ps => .error (.malformed ps.length)
  | fuel + 1, ps => do
    let (name, r) ← readName ps
    let (member, r) ← value r
    let (closed, r) ← separator '\x7d' r
    if closed then return ([(name, member)], r)
    let (members, r) ← readMembers value fuel r
    return ((name, member) :: members, r)

def words : List (String × Json) :=
  [("null", .null), ("true", .bool true), ("false", .bool false), ("NaN", .number "NaN"),
    ("Infinity", .number "Infinity"), ("-Infinity", .number "-Infinity")]

def readWord? (ps : List Point) : Option (Json × List Point) :=
  words.findSome? fun (word, v) => (after? (points word.toList) ps).map (v, ·)

def readNumber : List Point → Except Stop (Json × List Point)
  | .char '-' :: r => readMagnitude (r.length + 1) ['-'] r
  | ps => readMagnitude ps.length [] ps

def readScalar (ps : List Point) : Except Stop (Json × List Point) :=
  match ps with
  | .char '"' :: r => (readString r).map fun (s, r) => (.string s, r)
  | ps =>
    match readWord? ps with
    | some reading => .ok reading
    | none => readNumber ps

def readValue (size : Nat) : Nat → List Point → Except Stop (Json × List Point)
  | 0, .char '[' :: _ => .error .tooDeep
  | 0, .char '\x7b' :: _ => .error .tooDeep
  | depth + 1, .char '[' :: r =>
    match skip r with
    | .char ']' :: r => .ok (.array [], r)
    | r => (readItems (readValue size depth) size r).map fun (items, r) => (.array items, r)
  | depth + 1, .char '\x7b' :: r =>
    match skip r with
    | .char '\x7d' :: r => .ok (.object [], r)
    | r =>
      (readMembers (readValue size depth) size r).map fun (members, r) => (.object members, r)
  | _, ps => readScalar ps

def readAll (depth : Nat) (ps : List Point) : Except Stop Json := do
  let (v, r) ← readValue (ps.length + 1) depth (skip ps)
  if (skip r).isEmpty then return v else throw (.malformed (skip r).length)

def read (depth : Nat) (ps : List Point) : Except ReadFault Json :=
  match readAll depth ps with
  | .ok v => .ok v
  | .error stop => .error (stop.fault ps.length)

end PagedCatalogue.Json

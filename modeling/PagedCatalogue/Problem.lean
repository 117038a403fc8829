import PagedCatalogue.Failure
import PagedCatalogue.Text.Integer

namespace PagedCatalogue

open Text

inductive Defect
  | missing
  | notText
  | notUnicode
  | emptyText
  | longText (maximum : Nat)
  | notObject
  | malformed
  | notInteger
  | longInteger
deriving DecidableEq, Repr

namespace Defect

def tag : Defect → String
  | .missing => "missing"
  | .notText => "string_type"
  | .notUnicode => "string_unicode"
  | .emptyText => "string_too_short"
  | .longText _ => "string_too_long"
  | .notObject => "model_attributes_type"
  | .malformed => "json_invalid"
  | .notInteger => "int_parsing"
  | .longInteger => "int_parsing_size"

def message : Defect → String
  | .missing => "Field required"
  | .notText => "Input should be a valid string"
  | .notUnicode =>
    "Input should be a valid string, unable to parse raw data as a unicode string"
  | .emptyText => "String should have at least 1 character"
  | .longText maximum => "String should have at most " ++ Decimal.text maximum ++ " characters"
  | .notObject => "Input should be a valid dictionary or object to extract fields from"
  | .malformed => "JSON decode error"
  | .notInteger => "Input should be a valid integer, unable to parse string as an integer"
  | .longInteger => "Unable to parse input string as an integer, exceeded maximum size"

def ofInteger : Integer.Fault → Defect
  | .notInteger => .notInteger
  | .tooLong => .longInteger

end Defect

inductive Place
  | identifier
  | body
  | bodyAt (position : Nat)
  | bodyField (name : String)
deriving DecidableEq, Repr

inductive Hindrance
  | tooDeep
  | notFinite
  | notEncodable
  | notText (f : Utf8.Fault)
deriving DecidableEq, Repr

def Hindrance.failure : Hindrance → Failure
  | .tooDeep => .tooDeep
  | .notFinite => .notFinite
  | .notEncodable => .notEncodable
  | .notText f => .notText f

structure Problem where
  defect : Defect
  place : Place
  hindrance : Option Hindrance := none
deriving DecidableEq, Repr

/-- What keeps an answer that quotes several values from being written. They are all taken apart
before the first is written, and all written before the first is encoded. -/
def hindranceOf (problems : List Problem) : Option Hindrance :=
  let hindrances := problems.filterMap (·.hindrance)
  ([.tooDeep, .notFinite].find? (hindrances.contains ·)).or hindrances.head?

end PagedCatalogue

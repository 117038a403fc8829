import PagedCatalogue.Text.Decimal
import PagedCatalogue.Text.Quoted

namespace PagedCatalogue

open Text

def maxOffset : Int := 9223372036854775807

def maxLimit : Int := 2147483647

/-- The kind of a value that is no integer. One that is not told apart here has its name alone. -/
inductive Kind
  | text | real | boolean | list | mapping | nothing
  | other (name : String)
deriving DecidableEq, Repr

def Kind.name : Kind → String
  | .text => "str"
  | .real => "float"
  | .boolean => "bool"
  | .list => "list"
  | .mapping => "dict"
  | .nothing => "NoneType"
  | .other name => name

inductive Argument
  | integer (n : Int)
  | foreign (kind : Kind)
deriving DecidableEq, Repr

inductive Field
  | offset | limit | last
deriving DecidableEq, Repr

def Field.name : Field → String
  | .offset => "offset"
  | .limit => "limit"
  | .last => "end"

def Field.maximum : Field → Int
  | .limit => maxLimit
  | _ => maxOffset

inductive Fault
  | notInteger (field : Field) (kind : Kind)
  | negative (field : Field)
  | tooLarge (field : Field)
  | offsetUnset
  | numeral (fault : Decimal.Fault)
deriving DecidableEq, Repr

def numeralMessage : Decimal.Fault → String
  | .notNumeral cs => "not an integer: " ++ String.ofList (Quoted.encode cs)
  | .tooManyDigits count =>
    "Exceeds the limit (" ++ Decimal.text Decimal.maxDigits ++
      " digits) for integer string conversion: value has " ++ Decimal.text count ++
      " digits; use sys.set_int_max_str_digits() to increase the limit"

def Fault.message : Fault → String
  | .notInteger field kind => field.name ++ " must be an int, got " ++ kind.name
  | .negative field => field.name ++ " must be >= 0"
  | .tooLarge field => field.name ++ " must be <= " ++ Decimal.text field.maximum
  | .offsetUnset => "setting 'end' requires 'offset' to be set first"
  | .numeral fault => numeralMessage fault

end PagedCatalogue

import PagedCatalogue.Text.Decimal
import PagedCatalogue.Text.Point

namespace PagedCatalogue

open Text

inductive Json
  | null
  | bool (b : Bool)
  | number (literal : String)
  | string (s : List Point)
  | array (items : List Json)
  | object (members : List (List Point × Json))
deriving Repr, Inhabited

namespace Json

def ofInt (n : Int) : Json := .number (Decimal.text n)

def ofString? : Option String → Json
  | some s => .string s
  | none => .null

def int? : Json → Option Int
  | .number literal => (Decimal.read literal.toList).toOption
  | _ => none

def string? : Json → Option String
  | .string s => text? s
  | _ => none

def items : Json → List Json
  | .array items => items
  | _ => []

def lookup? (members : List (List Point × Json)) (name : String) : Option Json :=
  (members.reverse.find? (·.1 == points name.toList)).map (·.2)

def member? : Json → String → Option Json
  | .object members, name => lookup? members name
  | _, _ => none

end Json

end PagedCatalogue

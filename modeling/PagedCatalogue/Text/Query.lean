import PagedCatalogue.Text.Percent

namespace PagedCatalogue.Text

def after? {α : Type} [DecidableEq α] : List α → List α → Option (List α)
  | [], as => some as
  | _ :: _, [] => none
  | b :: bs, a :: as => if b = a then after? bs as else none

theorem after?_append {α : Type} [DecidableEq α] (front as : List α) :
    after? front (front ++ as) = some as := by
  induction front with
  | nil => rfl
  | cons b front ih => simpa [after?] using ih

namespace Query

def splitOn (separator : Char) : List Char → List (List Char)
  | [] => [[]]
  | c :: r =>
    if c = separator then [] :: splitOn separator r
    else match splitOn separator r with
    | [] => [[c]]
    | part :: parts => (c :: part) :: parts

def cut (separator : Char) (cs : List Char) : List Char × List Char :=
  (cs.takeWhile (· != separator), (cs.dropWhile (· != separator)).drop 1)

def decode (cs : List Char) : List Char :=
  Percent.decode (cs.map fun c => if c = '+' then ' ' else c)

def pair (piece : List Char) : String × String :=
  (String.ofList (decode (cut '=' piece).1), String.ofList (decode (cut '=' piece).2))

def pairs (query : String) : List (String × String) :=
  ((splitOn '&' query.toList).filter (!·.isEmpty)).map pair

def value? (query name : String) : Option String :=
  ((pairs query).reverse.find? (·.1 == name)).map (·.2)

end Query

end PagedCatalogue.Text

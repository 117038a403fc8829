import PagedCatalogue.Text.Blank

namespace PagedCatalogue

open Text

inductive Signal
  | limit | offset | range
deriving DecidableEq, Repr

def Signal.name : Signal → String
  | .limit => "limit"
  | .offset => "offset"
  | .range => "Range"

/-- What a client says, signal by signal. -/
abbrev Source := Signal → Option String

/-- A text that says something. -/
def heard (said : Option String) : Option String := said.filter (!blank ·)

theorem heard_eq_some {said : Option String} {s : String} :
    heard said = some s ↔ said = some s ∧ blank s = false := by
  simp [heard]

end PagedCatalogue

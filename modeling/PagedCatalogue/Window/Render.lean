import PagedCatalogue.Window.Basic

namespace PagedCatalogue.Window

open Text

def shownLast (w : Window) : Option Int → Int
  | none => w.last
  | some total =>
    if total < w.last then (if 0 < total then total - 1 else total) else w.last

def items (w : Window) (total : Option Int) : String :=
  "items " ++ Decimal.text w.first ++ "-" ++ Decimal.text (w.shownLast total)

def contentRange (w : Window) (total : Int) : String :=
  w.items (some total) ++ "/" ++ Decimal.text total

def setting : Option Int → String
  | some n => Decimal.text n
  | none => "None"

def description (w : Window) : String :=
  "PaginationRange(offset=" ++ setting w.offset ++ ", limit=" ++ setting w.limit ++ ")"

end PagedCatalogue.Window

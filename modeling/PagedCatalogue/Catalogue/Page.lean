import PagedCatalogue.Catalogue.Basic
import PagedCatalogue.Event
import PagedCatalogue.Window.Render

namespace PagedCatalogue

structure Page where
  items : List Item
  total : Nat
  contentRange : String
deriving DecidableEq, Repr

def Page.event (page : Page) : Event := .pageServed page.contentRange page.items.length

def Catalogue.page (c : Catalogue) (w : Window) : Except Failure Page :=
  (c.slice w.size w.first).map fun items => ⟨items, c.size, w.contentRange c.size⟩

end PagedCatalogue

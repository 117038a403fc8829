import PagedCatalogue.Proofs.Negotiation.Ending

namespace PagedCatalogue

namespace Window

-- The first position is the offset under another name.
inductive Operation
  | setOffset (value : Argument)
  | setFirst (value : Argument)
  | setLimit (value : Argument)
  | setLast (value : Argument)
  | negotiate (source : Source)

def attempt (w : Window) : Except Fault Window → Window × Option Failure
  | .ok w' => (w', none)
  | .error fault => (w, some (.fault fault))

def perform (w : Window) : Operation → Window × Option Failure
  | .setOffset value => w.attempt (w.setOffset value)
  | .setFirst value => w.attempt (w.setOffset value)
  | .setLimit value => w.attempt (w.setLimit value)
  | .setLast value => w.attempt (w.setLast value)
  | .negotiate source =>
    ((Negotiation.apply source w).window, (Negotiation.apply source w).failure)

inductive Reachable : Window → Prop
  | made {offset limit : Option Argument} {w : Window} (made : make offset limit = .ok w) :
      Reachable w
  | performed {w : Window} (reachable : Reachable w) (operation : Operation) :
      Reachable (w.perform operation).1

variable {w : Window}

theorem InBounds.attempt (hw : w.InBounds) {set : Except Fault Window}
    (keeps : ∀ w', set = .ok w' → w'.InBounds) : (w.attempt set).1.InBounds := by
  cases set with
  | error fault => exact hw
  | ok w' => exact keeps w' rfl

theorem InBounds.perform (hw : w.InBounds) (operation : Operation) :
    (w.perform operation).1.InBounds := by
  cases operation with
  | setOffset value => exact hw.attempt fun _ => hw.setOffset
  | setFirst value => exact hw.attempt fun _ => hw.setOffset
  | setLimit value => exact hw.attempt fun _ => hw.setLimit
  | setLast value => exact hw.attempt fun _ => hw.setLast
  | negotiate source => exact (Negotiation.ending hw source).inBounds hw

theorem Reachable.inBounds (h : Reachable w) : w.InBounds := by
  induction h with
  | made made => exact make_inBounds made
  | performed _ operation ih => exact ih.perform operation

end Window

end PagedCatalogue

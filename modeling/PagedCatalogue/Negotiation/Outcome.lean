import PagedCatalogue.Event
import PagedCatalogue.Failure
import PagedCatalogue.Negotiation.Signal
import PagedCatalogue.Window.Basic
import PagedCatalogue.Window.ItemRange

/-!
# Negotiation

A limit or an offset that says something decides, and the range is then not asked for. Otherwise the
range decides, and one that ends before the position ahead of its first moves the offset and keeps
the limit. A refusal may come after a first value is set, so an outcome has a window in every case.
-/

namespace PagedCatalogue

open Text

/-- Where a negotiation leaves a window, why it failed if it did, and what it put on record. -/
structure Ruling where
  window : Window
  failure : Option Failure
  events : List Event
deriving DecidableEq, Repr

structure Outcome extends Ruling where
  asked : List Signal
deriving DecidableEq, Repr

namespace Negotiation

def number (text : String) : Except Fault Argument :=
  match Decimal.read text.toList with
  | .ok n => .ok (.integer n)
  | .error fault => .error (.numeral fault)

def applyLimit (w : Window) (limit : Option String) : Except Fault Window :=
  match heard limit with
  | some text => number text >>= w.setLimit
  | none => .ok w

def applyOffset (w : Window) (offset : Option String) : Except Fault Window :=
  match heard offset with
  | some text => number text >>= w.setOffset
  | none => w.setOffset (.integer 0)

def refuseParameters (w : Window) (limit offset : Option String) (cause : Option Fault) :
    Ruling where
  window := w
  failure := some (.refused (.badParameters limit offset cause))
  events := [.parametersRefused limit offset cause]

def byParameters (w : Window) (limit offset : Option String) : Ruling :=
  match applyLimit w limit with
  | .error fault => refuseParameters w limit offset (some fault)
  | .ok w =>
    match applyOffset w offset with
    | .error fault => refuseParameters w limit offset (some fault)
    | .ok w =>
      if w.isValid then ⟨w, none, []⟩ else refuseParameters w limit offset none

def settle (w : Window) (header : String) (events : List Event) : Ruling where
  window := w
  failure := if w.isValid then none else some (.refused (.rangeOutOfBounds header))
  events := events

def byPositions (w : Window) (header : String) (first last : Int) : Ruling :=
  if maxOffset < first ∨ maxOffset < last ∨ maxLimit < last - first + 1 then
    ⟨w, some (.refused (.rangeOutOfBounds header)), [.rangeOutOfBounds header]⟩
  else match w.setOffset (.integer first) with
  | .error fault => ⟨w, some (.fault fault), []⟩
  | .ok w =>
    if last < first - 1 then settle w header [.limitKept header]
    else match w.setLast (.integer last) with
    | .error fault => ⟨w, some (.fault fault), []⟩
    | .ok w => settle w header []

def byRangeText (w : Window) (header : String) : Ruling :=
  match ItemRange.request? header.toList with
  | none => ⟨w, some (.refused (.unreadableRange header)), [.rangeUnreadable header]⟩
  | some (first, last) =>
    match Decimal.readDigits first, Decimal.readDigits last with
    | .error fault, _ => ⟨w, some (.fault (.numeral fault)), []⟩
    | .ok _, .error fault => ⟨w, some (.fault (.numeral fault)), []⟩
    | .ok first, .ok last => byPositions w header first last

def byRange (w : Window) (range : Option String) : Ruling :=
  match heard range with
  | some header => byRangeText w header
  | none => ⟨w, none, []⟩

def apply (source : Source) (w : Window) : Outcome :=
  if (heard (source .limit)).isSome || (heard (source .offset)).isSome then
    { byParameters w (source .limit) (source .offset) with asked := [.limit, .offset] }
  else
    { byRange w (source .range) with asked := [.limit, .offset, .range] }

def fromUnset (source : Source) : Outcome := apply source .unset

def fromDefault (source : Source) (limit : Option Argument) : Outcome :=
  match Window.make (some (.integer 0)) limit with
  | .ok w => apply source w
  | .error fault => ⟨⟨.unset, some (.fault fault), []⟩, []⟩

end Negotiation

end PagedCatalogue

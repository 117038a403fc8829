import PagedCatalogue.Load.Client
import PagedCatalogue.Text.FixedPoint

namespace PagedCatalogue.Load

open Text

inductive Instant
  | whole (n : Int)
  | real (x : Float)

def floatOf (n : Int) : Option Float :=
  if (Float.ofInt n).isInf then none else some (Float.ofInt n)

namespace Instant

def toFloat : Instant → Option Float
  | .whole n => floatOf n
  | .real x => some x

def since : Instant → Instant → Option Float
  | .whole later, .whole earlier => floatOf (later - earlier)
  | later, earlier => do return (← later.toFloat) - (← earlier.toFloat)

end Instant

def seconds (t : Float) : String := FixedPoint.ofFloat 2 t

def rate (n : Nat) (t : Float) : Float := if 0 < t then Float.ofNat n / t else 0

def Tally.text (tally : Tally) : String :=
  "\x7b" ++ String.intercalate ", " (tally.map fun (code, n) =>
    Decimal.text code ++ ": " ++ Decimal.text n) ++ "\x7d"

def codesLine (tally : Tally) : String := "codes: " ++ tally.text

def createdLines (count : Int) (tally : Tally) (t : Float) : List String :=
  ["created: ok=" ++ Decimal.text tally.successes ++ "/" ++ Decimal.text count ++
      " in " ++ seconds t ++ "s rps=" ++ FixedPoint.ofFloat 1 (rate tally.successes t),
    codesLine tally]

def walkLines (total : Nat) (walk : Walk) (t : Float) : List String :=
  ["paged: " ++ Decimal.text walk.pages ++ " pages, " ++ Decimal.text walk.items ++ "/" ++
      Decimal.text total ++ " items in " ++ seconds t ++ "s",
    codesLine walk.codes]

inductive Breakdown
  | noCount
  | noPageSize
  | emptyPages
  | clockOutOfRange
deriving DecidableEq, Repr

def Breakdown.message : Breakdown → String
  | .noCount => "'list' object cannot be interpreted as an integer"
  | .noPageSize => "unsupported operand type(s) for -: 'list' and 'int'"
  | .emptyPages => "range() arg 3 must not be zero"
  | .clockOutOfRange => "int too large to convert to float"

structure Report where
  lines : List String
  breakdown : Option Breakdown
deriving DecidableEq, Repr

namespace Report

def broken (breakdown : Breakdown) : Report := ⟨[], some breakdown⟩

def after (lines : List String) (report : Report) : Report :=
  { report with lines := lines ++ report.lines }

def ofPosts (count : Int) (tally : Tally) : Option Float → Report
  | some t => ⟨createdLines count tally t, none⟩
  | none => broken .clockOutOfRange

def ofPages (paging : Paging) (t : Option Float) : Report :=
  match paging, t with
  | .failed code, _ => ⟨["first page failed: code=" ++ Decimal.text code], none⟩
  | .stuck, _ => broken .emptyPages
  | .walked total walk, some t => ⟨walkLines total walk t, none⟩
  | .walked _ _, none => broken .clockOutOfRange

def followedBy (first second : Report) : Report :=
  if first.breakdown.isSome then first else second.after first.lines

/-- The report on a run, by the four readings of a clock. -/
def ofRun (limits : PageLimits) (plan : Plan) (c : Catalogue) (t₀ t₁ t₂ t₃ : Instant) : Report :=
  match plan.count with
  | none => broken .noCount
  | some count =>
    let (c, tally) := create (plan.target limits) count c
    (ofPosts count tally (t₁.since t₀)).followedBy <|
      match plan.pageSize with
      | none => broken .noPageSize
      | some pageSize => ofPages (page (plan.target limits) pageSize c) (t₃.since t₂)

end Report

end PagedCatalogue.Load

import PagedCatalogue.Text.Numeral
import PagedCatalogue.Text.Query

namespace PagedCatalogue.Load

open Text

/-- What the load client is to do. A number is none where it was taken away. -/
structure Plan where
  baseUrl : String := "http://localhost:8000"
  count : Option Int := some 1000
  pageSize : Option Int := some 25
deriving DecidableEq, Repr

inductive Choice
  | help | baseUrl | count | concurrency | pageSize | timeout
deriving DecidableEq, Repr

def choices : List (String × Choice) :=
  [("-h", .help), ("--help", .help), ("--base-url", .baseUrl), ("--n", .count),
    ("--c", .concurrency), ("--page-size", .pageSize), ("--timeout", .timeout)]

inductive Word
  | value (s : String)
  | choice (choice : Choice) (attached : Option String)
  | shortHelp (tail : List Char)
  | unknown
  | ambiguous
  | divider
deriving DecidableEq, Repr

def isNegativeNumber (cs : List Char) : Bool :=
  let isDecimal c := (decimalDigit? c).isSome
  let body := if cs.getLast? == some '\n' then cs.dropLast else cs
  match body with
  | '-' :: r =>
    match r.dropWhile isDecimal with
    | [] => !r.isEmpty
    | '.' :: r => !r.isEmpty && r.all isDecimal
    | _ => false
  | _ => false

def candidates (front : List Char) : List Choice :=
  (choices.filter fun (name, _) => front.isPrefixOf name.toList).map (·.2)

def classifyLong (cs : List Char) : Word :=
  let (front, attached) := Query.cut '=' cs
  match candidates front with
  | [choice] => .choice choice (if cs.contains '=' then some (String.ofList attached) else none)
  | [] => if cs.contains ' ' then .value (String.ofList cs) else .unknown
  | _ => .ambiguous

def classify (s : String) : Word :=
  match choices.find? (·.1 == s) with
  | some (_, choice) => .choice choice none
  | none =>
    let (front, attached) := Query.cut '=' s.toList
    match choices.find? (·.1 == String.ofList front), s.toList with
    | _, [] => .value s
    | _, ['-'] => .value s
    | _, ['-', '-'] => .divider
    | some ("-h", _), _ => .shortHelp attached
    | some (_, choice), _ => .choice choice (some (String.ofList attached))
    | none, '-' :: '-' :: _ => classifyLong s.toList
    | none, '-' :: 'h' :: tail => .shortHelp tail
    | none, '-' :: _ =>
      if isNegativeNumber s.toList || s.toList.contains ' ' then .value s else .unknown
    | none, _ => .value s

inductive Command
  | run (plan : Plan)
  | help
  | refused
deriving DecidableEq, Repr

def helpTail (cs : List Char) : Bool := !cs.isEmpty && cs.all (· == 'h')

def Plan.clear (plan : Plan) : Choice → Option Plan
  | .help => none
  | .baseUrl => some { plan with baseUrl := "[]" }
  | .count => some { plan with count := none }
  | .pageSize => some { plan with pageSize := none }
  | _ => some plan

def Plan.set (plan : Plan) (choice : Choice) (s : String) : Option Plan :=
  if s = "--" then plan.clear choice
  else match choice with
  | .help => none
  | .baseUrl => some { plan with baseUrl := s }
  | .count => (Numeral.integer? s).map fun n => { plan with count := n }
  | .concurrency => (Numeral.integer? s).map fun _ => plan
  | .pageSize => (Numeral.integer? s).map fun n => { plan with pageSize := n }
  | .timeout => if Numeral.isReal s then some plan else none

def consume (plan : Plan) (leftOver : Bool) : List Word → Command
  | [] => if leftOver then .refused else .run plan
  | .value _ :: r => consume plan true r
  | .unknown :: r => consume plan true r
  | .divider :: _ => .refused
  | .ambiguous :: _ => .refused
  | .shortHelp tail :: _ => if helpTail tail then .help else .refused
  | .choice .help none :: _ => .help
  | .choice choice (some s) :: r =>
    match plan.set choice s with
    | some plan => consume plan leftOver r
    | none => .refused
  | .choice choice none :: .value s :: r =>
    match plan.set choice s with
    | some plan => consume plan leftOver r
    | none => .refused
  | .choice _ none :: _ => .refused

def upToDivider : List Word → List Word
  | [] => []
  | .divider :: _ => [.divider]
  | a :: r => a :: upToDivider r

def Command.ofArguments (args : List String) : Command :=
  let classified := upToDivider (args.map classify)
  if classified.contains .ambiguous then .refused else consume {} false classified

end PagedCatalogue.Load

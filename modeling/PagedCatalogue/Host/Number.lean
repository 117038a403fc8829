import PagedCatalogue.Text.Decimal
import PagedCatalogue.Text.Hex
import PagedCatalogue.Text.Query

namespace PagedCatalogue.Host

open Text

def isOctet (ds : List Char) : Bool :=
  Decimal.isDigits ds && ds.length ≤ 3 && (ds == ['0'] || ds.head? != some '0') &&
    Decimal.value ds ≤ 255

def isVersion4 (cs : List Char) : Bool :=
  let octets := Query.splitOn '.' cs
  octets.length == 4 && octets.all isOctet

def isGroup (ds : List Char) : Bool :=
  !ds.isEmpty && ds.length ≤ 4 && ds.all fun c => (hexValue? c).isSome

/-- How many groups a text between colons stands for, none if another text is among them. At the end
four octets may stand for two groups. -/
def groups? (last : Bool) : List (List Char) → Option Nat
  | [] => some 0
  | [part] =>
    if isGroup part then some 1
    else if last && isVersion4 part then some 2
    else none
  | part :: parts => if isGroup part then (groups? last parts).map (· + 1) else none

def cutGap : List Char → Option (List Char × List Char)
  | ':' :: ':' :: r => some ([], r)
  | c :: r => (cutGap r).map fun (front, back) => (c :: front, back)
  | [] => none

def parts (cs : List Char) : List (List Char) := if cs.isEmpty then [] else Query.splitOn ':' cs

def isGroups (cs : List Char) : Bool :=
  match cutGap cs with
  | none => groups? true (parts cs) == some 8
  | some (front, back) =>
    match groups? false (parts front), groups? true (parts back) with
    | some m, some n => m + n ≤ 7
    | _, _ => false

def isVersion6 (cs : List Char) : Bool :=
  let (groups, zone) := Query.cut '%' cs
  isGroups groups && (!cs.contains '%' || (!zone.isEmpty && !zone.contains '%'))

def digitRuns : Nat → List Char → List Nat
  | n, [] => [n]
  | n, c :: r => if c.isDigit then digitRuns (n + 1) r else n :: digitRuns 0 r

/-- Four numbers with single characters between them, which may be digits too: each run of digits
holds as many numbers as half its length, rounded up. -/
def looksNumeric (cs : List Char) : Bool :=
  let runs := digitRuns 0 cs
  runs.all (0 < ·) && runs.length ≤ 4 && 4 ≤ runs.foldl (fun m n => m + (n + 1) / 2) 0

end PagedCatalogue.Host

import PagedCatalogue.Host.Context
import PagedCatalogue.Text.Composed
import PagedCatalogue.Text.Punycode

namespace PagedCatalogue.Host

open Text

def maxName : Nat := 254

def maxLabel : Nat := 63

def isVirama (n : Nat) : Bool := combiningClass n == 9

def neighbour? (ns : List Nat) : Option Nat := ns.find? fun n => !isTransparent n

def mayJoin (before after : List Nat) : Bool :=
  before.head?.any isVirama ||
    ((neighbour? before).any joinsNext && (neighbour? after).any joinsPrevious)

/-- Whether a character may stand in a label between a text, in reverse, and another. -/
def mayStand (label before after : List Nat) (n : Nat) : Bool :=
  (direction? n).isSome &&
  if n = 0x200c then mayJoin before after
  else if n = 0x200d then before.head?.any isVirama
  else if n = 0xb7 then before.head? == some 0x6c && after.head? == some 0x6c
  else if n = 0x375 then after.head?.any greek.contain
  else if n = 0x5f3 || n = 0x5f4 then before.head?.any hebrew.contain
  else if n = 0x30fb then label.any fun m => m != 0x30fb && japanese.contain m
  else if 0x660 ≤ n && n ≤ 0x669 then label.all fun m => m < 0x6f0 || 0x6f9 < m
  else if 0x6f0 ≤ n && n ≤ 0x6f9 then label.all fun m => m < 0x660 || 0x669 < m
  else true

def allStand (label before : List Nat) : List Nat → Bool
  | [] => true
  | n :: r => mayStand label before r n && allStand label (n :: before) r

def Direction.isReverse : Direction → Bool
  | .right | .arabic | .arabicNumber => true
  | _ => false

/-- Whether directions go together. A label from right to left begins with a letter, has nothing
written from left to right but one kind of digits, and ends with a letter or a digit before any
marks. -/
def directionsAgree (ds : List Direction) : Bool :=
  !ds.any Direction.isReverse ||
    (ds.head?.any (fun d => d == .right || d == .arabic) && !ds.contains .left &&
      !(ds.contains .european && ds.contains .arabicNumber) &&
      (ds.reverse.find? (· != .mark)).any fun d => d.isReverse || d == .european)

def hyphensAgree (label : List Nat) : Bool :=
  label.head? != some 0x2d && label.getLast? != some 0x2d &&
    (label.drop 2).take 2 != [0x2d, 0x2d]

def isLabel (label : List Nat) : Bool :=
  !label.isEmpty && label.length ≤ maxName && isComposed label && hyphensAgree label &&
    !label.head?.any isMark && allStand label [] label &&
    directionsAgree (label.filterMap direction?)

def punycodeSign : List Nat := [0x78, 0x6e, 0x2d, 0x2d]

def isEncoded (cs : List Nat) : Bool :=
  if punycodeSign.isPrefixOf cs then
    let r := cs.drop punycodeSign.length
    !r.isEmpty && r.getLast? != some 0x2d && (Punycode.decode? r).any isLabel
  else isLabel cs

def encodeLabel? (label : List Nat) : Option (List Nat) :=
  let written := if label.all (· < 0x80) then label else punycodeSign ++ Punycode.encode label
  let stands := if label.all (· < 0x80) then isEncoded label else isLabel label
  if stands && written.length ≤ maxLabel then some written else none

end PagedCatalogue.Host

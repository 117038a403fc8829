import PagedCatalogue.Host.Label
import PagedCatalogue.Host.Number
import PagedCatalogue.Text.LowerCase
import PagedCatalogue.Text.Percent

namespace PagedCatalogue.Host

open Text

def labels (cs : List Char) : List (List Nat) × Bool :=
  let parts := Query.splitOn '.'
    (cs.map fun c => if ['\u3002', '\uff0e', '\uff61'].contains c then '.' else c)
  let ends := 1 < parts.length && parts.getLast? == some []
  ((if ends then parts.dropLast else parts).map (·.map Char.toNat), ends)

def encodeName? (cs : List Char) : Option (List Char) :=
  let (parts, ends) := labels cs
  if maxName < cs.length then none
  else (parts.mapM encodeLabel?).bind fun parts =>
    let name := List.intercalate [0x2e] parts
    if name.length < maxName then
      some ((name ++ if ends then [0x2e] else []).map Char.ofNat)
    else none

def isReadable (cs : List Char) : Bool :=
  cs.length ≤ maxName && (labels cs).1.all isEncoded

def isPlain (c : Char) : Bool := c.isAlphanum || "-._~!$&'()*+,;=\"`\x7b\x7d%|\\".toList.contains c

def encodeAscii? (cs : List Char) : Option (List Char) :=
  let host := Percent.encode isPlain (cs.map Char.toLower)
  if "xn--".toList.isPrefixOf host && !isReadable host then none else some host

def encode? (cs : List Char) : Option (List Char) :=
  let ascii := cs.all (·.toNat < 0x80)
  if looksNumeric cs then (if isVersion4 cs then some cs else none)
  else if cs.head? == some '[' && cs.getLast? == some ']' && 1 < cs.length then
    let number := (cs.drop 1).dropLast
    if ascii && isVersion6 number then some number else none
  else if ascii then encodeAscii? cs
  else encodeName? (lowerCase cs)

def isRegistered : List Char → Bool
  | [] => true
  | '%' :: h :: l :: r => (hexValue? h).isSome && (hexValue? l).isSome && isRegistered r
  | c :: r => (c.isAlphanum || "-._~!$&'()*+,;=".toList.contains c) && isRegistered r

def isSocketPart : List Char → Bool
  | [] => true
  | c :: r => c == ':' && r.all Char.isDigit

def isWellFormed (cs : List Char) : Bool :=
  match cs with
  | '[' :: r =>
    let number := r.takeWhile (· != ']')
    !number.isEmpty && number.all (fun c => (hexValue? c).isSome || c == ':' || c == '.') &&
      (r.drop number.length).head? == some ']' && isSocketPart (r.drop (number.length + 1))
  | _ =>
    let name := cs.takeWhile (· != ':')
    !name.isEmpty && isRegistered name && isSocketPart (cs.drop name.length)

end PagedCatalogue.Host

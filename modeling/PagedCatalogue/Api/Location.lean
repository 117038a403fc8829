import PagedCatalogue.Failure
import PagedCatalogue.Host.Basic

namespace PagedCatalogue.Api

open Text

structure Arrival where
  scheme : String
  host : String
  socket : Option Int
deriving DecidableEq, Repr

def usualSocket? : String → Option Int
  | "http" => some 80
  | "https" => some 443
  | "ws" => some 80
  | "wss" => some 443
  | _ => none

namespace Arrival

def place (arrival : Arrival) : Except Failure String :=
  match usualSocket? arrival.scheme with
  | none => .error (.unknownScheme arrival.scheme)
  | some usual =>
    if arrival.socket = some usual then .ok arrival.host
    else .ok (arrival.host ++ ":" ++ (arrival.socket.map Decimal.text).getD "None")

def authority (arrival : Arrival) (named : Option String) : Except Failure String :=
  match named.filter fun host => Host.isWellFormed host.toList with
  | some host => .ok host
  | none => arrival.place

end Arrival

def isPlain (c : Char) : Bool :=
  c.isAlphanum || "_.-~:/%#?=@[]!$&'()*+,;".toList.contains c

def closedPath (path : List Char) : List Char :=
  path.flatMap fun c => if c = '?' ∨ c = '#' then Percent.escape c.toNat else [c]

def queryOctets (query : String) : Except Failure (List Nat) :=
  let octets := query.toList.map Char.toNat
  match Utf8.fault? octets with
  | some fault => .error (.notText fault)
  | none => .ok octets

/-- The location of a path, with a query string whose characters are octets. -/
def location (arrival : Arrival) (named : Option String) (path : List Char) (query : String) :
    Except Failure String := do
  let authority ← arrival.authority named
  let octets ← queryOctets query
  let plain := Percent.encode isPlain
    ((arrival.scheme ++ "://" ++ authority).toList ++ closedPath path)
  let query := octets.flatMap fun b =>
    if isPlain (Char.ofNat b) then [Char.ofNat b] else Percent.escape b
  return String.ofList (plain ++ if query.isEmpty then [] else '?' :: query)

end PagedCatalogue.Api

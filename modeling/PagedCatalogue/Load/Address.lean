import PagedCatalogue.Host.Basic
import PagedCatalogue.Text.Numeral

namespace PagedCatalogue.Load

open Text

structure Address where
  scheme : String
  host : String
  socket : Option Int
  path : String
  query : String
deriving DecidableEq, Repr

namespace Address

def maxLength : Nat := 65536

def isControl (c : Char) : Bool := c.toNat < 0x20 || c.toNat = 0x7f

def isScheme : List Char → Bool
  | [] => false
  | c :: r => c.isAlpha && r.all fun c => c.isAlphanum || c == '+' || c == '.' || c == '-'

def splitScheme (cs : List Char) : Option (List Char × List Char) :=
  let (scheme, r) := Query.cut ':' cs
  match isScheme scheme, r with
  | true, '/' :: '/' :: r => some (scheme, r)
  | _, _ => none

def hostAndSocket (authority : List Char) : List Char :=
  (authority.reverse.takeWhile (· != '@')).reverse

/-- The host as written, up to a colon or up to the last closing bracket if it begins with an
opening one, and the socket number as written. -/
def splitSocket (cs : List Char) : List Char × List Char :=
  let r := (cs.reverse.takeWhile (· != ']')).reverse
  if cs.head? == some '[' && cs.contains ']' then
    (cs.take (cs.length - r.length), if r.head? == some ':' then r.drop 1 else r)
  else Query.cut ':' cs

def plainSocket? : String → Option Int
  | "ftp" => some 21
  | "http" => some 80
  | "https" => some 443
  | "ws" => some 80
  | "wss" => some 443
  | _ => none

def readSocket (scheme socket : List Char) : Option (Option Int) :=
  if socket.isEmpty then some none
  else (Numeral.integer? (String.ofList socket)).map fun n =>
    if plainSocket? (String.ofList scheme) = some n then none else some n

/-- A path without the segments `.` and `..`, of which the second takes away the segment in front of
it. -/
def withoutDots (kept : List (List Char)) : List (List Char) → List (List Char)
  | [] => kept
  | ['.'] :: r => withoutDots kept r
  | ['.', '.'] :: r => withoutDots (if kept = [[]] then kept else kept.dropLast) r
  | segment :: r => withoutDots (kept ++ [segment]) r

def joined (segments : List (List Char)) : List Char := List.intercalate ['/'] segments

def sentPath (path : List Char) : List Char :=
  if path.isEmpty then ['/'] else joined (withoutDots [] (Query.splitOn '/' path))

def isPlain (c : Char) : Bool :=
  0x20 < c.toNat && c.toNat < 0x7f && c != '"' && c != '#' && c != '<' && c != '>'

def read (s : String) : Option Address := do
  if maxLength < s.length || s.toList.any isControl then none
  let (scheme, r) ← splitScheme s.toList
  let (r, query) := Query.cut '?' (Query.cut '#' r).1
  let (host, socket) := splitSocket (hostAndSocket (r.takeWhile (· != '/')))
  if host.isEmpty then none
  let host ← Host.encode? host
  let socket ← readSocket scheme socket
  return {
    scheme := String.ofList (scheme.map Char.toLower)
    host := String.ofList host
    socket := socket
    path := String.ofList (sentPath (r.dropWhile (· != '/')))
    query := String.ofList (Percent.encode isPlain query) }

def authority (address : Address) : String :=
  (if address.host.contains ':' then "[" ++ address.host ++ "]" else address.host) ++
    ((address.socket.map fun n => ":" ++ Decimal.text n).getD "")

end Address

end PagedCatalogue.Load

import PagedCatalogue.Api.Application
import PagedCatalogue.Load.Address
import PagedCatalogue.Load.Arguments

namespace PagedCatalogue.Load

open Text Api

/-! ## Tallies -/

abbrev Tally := List (Nat × Nat)

def Tally.add (code : Nat) : Tally → Tally
  | [] => [(code, 1)]
  | (c, n) :: r => if c = code then (c, n + 1) :: r else (c, n) :: Tally.add code r

def Tally.successes : Tally → Nat
  | [] => 0
  | (code, n) :: r => (if 0 < code ∧ code < 400 then n else 0) + Tally.successes r

/-! ## Single requests -/

structure Target where
  limits : PageLimits
  address : Option Address

def collectionAddress (plan : Plan) : Option Address :=
  Address.read (plan.baseUrl ++ "/api/v1/items")

def requestTo (address : Address) (method : String) (headers : List (String × String))
    (body : String) : Request where
  method := method
  path := address.path
  query := address.query
  headers := ("host", address.authority) :: headers
  body := Utf8.octets body
  arrival := ⟨address.scheme, address.host, address.socket⟩

def isReadable (response : Response) : Bool :=
  response.location.all fun s => (Address.read s).isSome

def draftAt (position : Nat) : Draft where
  name := "load-" ++ Decimal.text position
  description := some ("generated-" ++ Decimal.text position)

def draftBody (draft : Draft) : String :=
  (Json.object [("name", .string draft.name), ("description", .ofString? draft.description)]).text

def post (target : Target) (c : Catalogue) (position : Nat) : Catalogue × Nat :=
  match target.address with
  | none => (c, 0)
  | some address =>
    let request := requestTo address "POST" [("content-type", "application/json")]
      (draftBody (draftAt position))
    let (c, response) := Application.answer target.limits c request
    (c, if isReadable response then response.status else 0)

structure Fetched where
  code : Nat
  total : Option Nat
  items : Nat
deriving DecidableEq, Repr

def Fetched.nothing : Fetched := ⟨0, none, 0⟩

def entries? (payload : Payload) : Option Nat :=
  match payload.json? "" with
  | some (.array items) => some items.length
  | some (.object members) => some members.length
  | _ => none

def totalOf (response : Response) : Option Nat :=
  ((response.contentRange.bind fun s => ItemRange.answer? s.toList).map (·.2.2)).map Decimal.value

def Fetched.ofResponse (response : Response) : Fetched :=
  if !isReadable response then .nothing
  else if 400 ≤ response.status then ⟨response.status, none, 0⟩
  else match entries? response.payload with
  | some n => ⟨response.status, totalOf response, n⟩
  | none => .nothing

def isWritable (n : Int) : Bool := (Decimal.digits n.natAbs).length ≤ Decimal.maxDigits

def fetch (target : Target) (c : Catalogue) (first last : Int) : Fetched :=
  match target.address with
  | none => .nothing
  | some address =>
    if isWritable first && isWritable last then
      .ofResponse (Application.answer target.limits c
        (requestTo address "GET" [("range", ItemRange.request first last)] "")).2
    else .nothing

/-! ## Whole runs -/

def postAll (target : Target) : List Nat → Catalogue × Tally → Catalogue × Tally
  | [], state => state
  | position :: r, (c, tally) =>
    let (c, code) := post target c position
    postAll target r (c, tally.add code)

def create (target : Target) (count : Int) (c : Catalogue) : Catalogue × Tally :=
  postAll target (List.range count.toNat) (c, [])

/-- The first positions of the pages of a collection: multiples of the page size below the total.
There are none for a negative size, and an empty page leads nowhere. -/
def pageStarts? (total : Nat) (pageSize : Int) : Option (List Int) :=
  if 0 < pageSize then
    let pages := (total + pageSize.toNat - 1) / pageSize.toNat
    some ((List.range pages).map fun i : Nat => i * pageSize)
  else if pageSize < 0 then some []
  else none

structure Walk where
  pages : Nat
  items : Nat
  codes : Tally
deriving DecidableEq, Repr

def Walk.step (walk : Walk) (fetched : Fetched) : Walk where
  pages := walk.pages + 1
  items := walk.items + fetched.items
  codes := walk.codes.add fetched.code

def walk (target : Target) (c : Catalogue) (pageSize : Int) (starts : List Int) : Walk :=
  (starts.map fun first => fetch target c first (first + pageSize - 1)).foldl Walk.step ⟨0, 0, []⟩

inductive Paging
  | failed (code : Nat)
  | stuck
  | walked (total : Nat) (walk : Walk)
deriving DecidableEq, Repr

def page (target : Target) (pageSize : Int) (c : Catalogue) : Paging :=
  match fetch target c 0 (pageSize - 1) with
  | ⟨code, none, _⟩ => .failed code
  | ⟨_, some total, _⟩ =>
    match pageStarts? total pageSize with
    | some starts => .walked total (walk target c pageSize starts)
    | none => .stuck

def Plan.target (plan : Plan) (limits : PageLimits) : Target := ⟨limits, collectionAddress plan⟩

end PagedCatalogue.Load

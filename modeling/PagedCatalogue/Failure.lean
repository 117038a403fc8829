import PagedCatalogue.Text.Hex
import PagedCatalogue.Text.Utf8
import PagedCatalogue.Window.Fault

namespace PagedCatalogue

open Text

inductive Refusal
  | badParameters (limit offset : Option String) (cause : Option Fault)
  | unreadableRange (header : String)
  | rangeOutOfBounds (header : String)
  | limitAboveMaximum (limit maximum : Int)
deriving DecidableEq, Repr

def Refusal.message : Refusal → String
  | .badParameters limit offset _ =>
    "Invalid 'limit' and 'offset' parameters: limit=" ++ limit.getD "None" ++
      " offset=" ++ offset.getD "None"
  | .unreadableRange header =>
    "Unparseable 'Range' header.  Expecting items=[start]-[end] was: " ++ header
  | .rangeOutOfBounds header =>
    "Invalid 'Range' header.  Expecting 'items=[start]-[end]'  was: " ++ header
  | .limitAboveMaximum limit maximum =>
    "Requested limit=" ++ Decimal.text limit ++ " exceeds the maximum of " ++ Decimal.text maximum

def Refusal.cause : Refusal → Option Fault
  | .badParameters _ _ cause => cause
  | _ => none

def octetsMessage (fault : Utf8.Fault) : String :=
  match fault.octets with
  | [b] => "byte 0x" ++ String.ofList (hex 2 b) ++ " in position " ++ Decimal.text fault.position
  | bs => "bytes in position " ++ Decimal.text fault.position ++ "-" ++
      Decimal.text (fault.position + bs.length - 1)

def flawMessage : Utf8.Flaw → String
  | .start => "invalid start byte"
  | .continuation => "invalid continuation byte"
  | .ending => "unexpected end of data"

inductive Failure
  | refused (refusal : Refusal)
  | fault (f : Fault)
  | notFound (id : Int)
  | tooWide
  | tooDeep
  | notFinite
  | notEncodable
  | notText (f : Utf8.Fault)
  | unknownScheme (scheme : String)
deriving DecidableEq, Repr

def Failure.message : Failure → String
  | .refused refusal => refusal.message
  | .fault f => f.message
  | .notFound id => "Элемент item_id=" ++ Decimal.text id ++ " не найден."
  | .tooWide => "Python int too large to convert to SQLite INTEGER"
  | .tooDeep => "maximum recursion depth exceeded"
  | .notFinite => "Out of range float values are not JSON compliant"
  | .notEncodable => "surrogates not allowed"
  | .notText f =>
    "'utf-8' codec can't decode " ++ octetsMessage f ++ ": " ++ flawMessage f.flaw
  | .unknownScheme scheme => quoted scheme

def Failure.cause : Failure → Option Fault
  | .refused refusal => refusal.cause
  | _ => none

end PagedCatalogue

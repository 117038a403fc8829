import PagedCatalogue.Window.Fault

namespace PagedCatalogue

open Text

inductive Level
  | debug | info
deriving DecidableEq, Repr

def Level.name : Level → String
  | .debug => "DEBUG"
  | .info => "INFO"

inductive Channel
  | negotiation | catalogue
deriving DecidableEq, Repr

inductive Event
  | parametersRefused (limit offset : Option String) (cause : Option Fault)
  | rangeUnreadable (header : String)
  | rangeOutOfBounds (header : String)
  | limitKept (header : String)
  | pageServed (contentRange : String) (returned : Nat)
deriving DecidableEq, Repr

namespace Event

def channel : Event → Channel
  | .pageServed .. => .catalogue
  | _ => .negotiation

def level : Event → Level
  | .pageServed .. => .debug
  | _ => .info

def causeText : Option Fault → String
  | some fault => " error=" ++ fault.message
  | none => ""

def message : Event → String
  | .parametersRefused limit offset cause =>
    "Отклонены параметры пагинации. limit=" ++ quotedOrNone limit ++
      " offset=" ++ quotedOrNone offset ++ causeText cause
  | .rangeUnreadable header => "Заголовок Range не распознан. Range=" ++ quoted header
  | .rangeOutOfBounds header =>
    "Заголовок Range вне допустимых границ. Range=" ++ quoted header
  | .limitKept header =>
    "Конец диапазона раньше начала, limit не изменён. Range=" ++ quoted header
  | .pageServed contentRange returned =>
    "Отдана страница " ++ contentRange ++ ". returned=" ++ Decimal.text returned

end Event

end PagedCatalogue

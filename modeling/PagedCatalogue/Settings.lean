import PagedCatalogue.Problem
import PagedCatalogue.Text.Letters
import PagedCatalogue.Text.Quoted
import PagedCatalogue.Text.UpperCase

namespace PagedCatalogue

open Text

/-- How many items a page has where the client does not say, and at most. -/
structure PageLimits where
  usual : Int := 25
  most : Int := 1000
deriving DecidableEq, Repr

structure Settings where
  title : String := "items-range-api"
  logLevel : String := "INFO"
  database : String := "sqlite+pysqlite:///./items.db"
  limits : PageLimits := {}
deriving DecidableEq, Repr

namespace Settings

def lookup? (env : List (String × String)) (name : String) : Option String :=
  (env.reverse.find? (sameName ·.1 name)).map (·.2)

def integer (env : List (String × String)) (name : String) (usual : Int) : Except Defect Int :=
  match lookup? env name with
  | none => .ok usual
  | some s =>
    match Integer.read s with
    | .ok n => .ok n
    | .error fault => .error (.ofInteger fault)

def defects (name : String) : Except Defect Int → List (String × Defect)
  | .ok _ => []
  | .error defect => [(name, defect)]

def ofEnvironment (env : List (String × String)) : Except (List (String × Defect)) Settings :=
  let usual : Settings := {}
  let standard := integer env "DEFAULT_PAGE_LIMIT" usual.limits.usual
  let most := integer env "MAX_PAGE_LIMIT" usual.limits.most
  match standard, most with
  | .ok standard, .ok most => .ok {
      title := (lookup? env "APP_TITLE").getD usual.title
      logLevel := (lookup? env "LOG_LEVEL").getD usual.logLevel
      database := (lookup? env "DATABASE_URL").getD usual.database
      limits := ⟨standard, most⟩ }
  | _, _ =>
    .error (defects "DEFAULT_PAGE_LIMIT" standard ++ defects "MAX_PAGE_LIMIT" most)

inductive SetupFault
  | unknownLevel (name : String)
  | untitled
deriving DecidableEq, Repr

def SetupFault.message : SetupFault → String
  | .unknownLevel name => "Unknown level: " ++ quoted name
  | .untitled => "A title must be provided for OpenAPI, e.g.: 'My API'"

def levelNumber? : String → Option Nat
  | "CRITICAL" => some 50
  | "FATAL" => some 50
  | "ERROR" => some 40
  | "WARNING" => some 30
  | "WARN" => some 30
  | "INFO" => some 20
  | "DEBUG" => some 10
  | "NOTSET" => some 0
  | _ => none

structure Logging where
  level : Nat
  format : String
deriving DecidableEq, Repr

/-- The logging that the settings ask for. A level without a meaning is found before a title that is
missing. -/
def logging (settings : Settings) : Except SetupFault Logging :=
  match levelNumber? (upperCase settings.logLevel) with
  | none => .error (.unknownLevel (upperCase settings.logLevel))
  | some level =>
    if settings.title.isEmpty then .error .untitled
    else .ok ⟨level, "%(asctime)s %(levelname)s %(name)s %(message)s"⟩

end Settings

end PagedCatalogue

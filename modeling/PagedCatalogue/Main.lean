import PagedCatalogue.Load.Report

namespace PagedCatalogue.CommandLine

open Load

def usage : String :=
  "usage: [-h] [--base-url BASE_URL] [--n N] [--c C] [--page-size PAGE_SIZE] [--timeout TIMEOUT]"

def settingNames : List String :=
  ["APP_TITLE", "LOG_LEVEL", "DATABASE_URL", "DEFAULT_PAGE_LIMIT", "MAX_PAGE_LIMIT"]

def environment : IO (List (String × String)) :=
  settingNames.filterMapM fun name => do
    return (← IO.getEnv name).map (name, ·)

def now : IO Instant := do
  return .real (Float.ofNat (← IO.monoNanosNow) / 1e9)

def print (report : Report) : IO Bool := do
  report.lines.forM IO.println
  (report.breakdown.map (·.message)).toList.forM IO.eprintln
  return report.breakdown.isNone

def executePosts (target : Target) : Option Int → IO (Catalogue × Bool)
  | none => do
    return (.ofDrafts [], ← print (.broken .noCount))
  | some count => do
    let t₀ ← now
    let (c, tally) ← IO.lazyPure fun _ => create target count (.ofDrafts [])
    let t₁ ← now
    return (c, ← print (.ofPosts count tally (t₁.since t₀)))

def executePages (target : Target) (c : Catalogue) : Option Int → IO Bool
  | none => print (.broken .noPageSize)
  | some pageSize => do
    let t₀ ← now
    let paging ← IO.lazyPure fun _ => page target pageSize c
    let t₁ ← now
    print (.ofPages paging (t₁.since t₀))

def execute (limits : PageLimits) (plan : Plan) : IO UInt32 := do
  let (c, goesOn) ← executePosts (plan.target limits) plan.count
  if goesOn && (← executePages (plan.target limits) c plan.pageSize) then
    return 0
  else
    return 1

def run (args : List String) : IO UInt32 := do
  match Command.ofArguments args, Settings.ofEnvironment (← environment) with
  | .help, _ =>
    IO.println usage
    return 0
  | .refused, _ =>
    IO.eprintln usage
    return 2
  | .run _, .error defects =>
    for (name, defect) in defects do
      IO.eprintln (name ++ ": " ++ defect.message)
    return 1
  | .run plan, .ok settings =>
    execute settings.limits plan

end PagedCatalogue.CommandLine

def main (args : List String) : IO UInt32 := PagedCatalogue.CommandLine.run args

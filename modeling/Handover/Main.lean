import Handover.Session

/-!
The program. It gathers what an invocation can find around it, carries the invocation out, and
passes on what that comes to. A process is not started from here: its command line goes to standard
output, for the shell that called.
-/

namespace Handover.Program

/-- A file counts as executable if it can be read. -/
def entryAt? (path : String) : IO (Option FileEntry) := do
  try
    return some (.file (← IO.FS.readBinFile path) true)
  catch error =>
    match error with
    | .inappropriateType .. => return some .directory
    | _ => return none

def variableNames : List String :=
  ["ZTC_SHIM_CONFIG", "ZTC_SHIM_BINARY", "ZTC_SHIM_DISPATCH_MODE", "ZTC_SHIM_LOG_LEVEL"]

def gatherVariables : IO Environment := do
  let found ← variableNames.mapM fun name => do
    return (← IO.getEnv name).map fun value => (name, value)
  return found.reduceOption

def discover (w : World) (path : String) : IO World := do
  match ← entryAt? path with
  | some entry => return w.changed (.write path entry)
  | none => return w

/-- The world with the files that the settings may come from, and the tool that they name. -/
def gather : IO World := do
  let here ← IO.currentDir
  let columns := ((← IO.getEnv "COLUMNS").bind (·.toNat?)).getD 80
  let start : World := {
    environment := ← gatherVariables
    directory := Files.placeOf [] here.toString
    columns }
  let sources := start.defaultSettings :: (start.valueOf? "ZTC_SHIM_CONFIG").toList
  let w ← sources.foldlM discover start
  match (Settings.load w none).result with
  | .ok settings => discover w settings.toolPath
  | .error _ => return w

def help : String :=
  "Usage: ztc-legacy run|explain COMMAND [ARGS]...\n       ztc-legacy mappings [COMMAND]\n"

def startedLine : Started → String
  | .replaced _ argv => "exec " ++ Text.shellLine argv
  | .beside argv _ _ => Text.shellLine argv

def recordLine (r : LogRecord) : String :=
  "[" ++ r.severity.name ++ "] " ++ r.logger.name ++ ": " ++ r.message

def passOn (report : Session.Report) : IO Int := do
  let trace := report.run.trace
  for r in report.records do
    IO.eprintln (recordLine r)
  IO.eprint trace.diagnostics
  IO.print trace.output
  for process in trace.started do
    IO.println (startedLine process)
  match report.run.result with
  | .ok (.ended .helped) =>
    IO.print help
    return 0
  | .ok (.ended ending) =>
    if ending = .refused then IO.eprint help
    return ending.exitStatus
  | .ok _ => return 0
  | .error (.failure failure) =>
    IO.eprintln failure.text
    return failure.status
  | .error (.breakdown breakdown) =>
    IO.eprintln (breakdown.message?.getD "The settings file cannot be read.")
    return 1

end Handover.Program

def main (args : List String) : IO UInt32 := do
  let world ← Handover.Program.gather
  let report := ({ world } : Handover.Session).report (.program args)
  let status ← Handover.Program.passOn report
  return (status % 256).toNat.toUInt32

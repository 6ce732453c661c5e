import Handover.Failure
import Handover.Text.Case
import Handover.World.Path

/-! The settings: which tool is run, how it is run, and how much is logged. -/

namespace Handover

structure Settings where
  toolPath : String := "/usr/bin/ztc"
  mode : String := "exec"
  logLevel : String := "WARNING"
  source : Option String := none
  deriving DecidableEq

namespace Settings

def modes : List String := ["exec", "spawn"]

def logLevels : List String := ["CRITICAL", "DEBUG", "ERROR", "INFO", "WARNING"]

inductive Flaw where
  | relativePath (path : String)
  | unknownMode (mode : String)
  | unknownLogLevel (level : String)
  deriving DecidableEq

def Flaw.message : Flaw → String
  | .relativePath path => "ERROR: ztc_path must be an absolute path, got '" ++ path ++ "'.\n" ++
    "Set it to the installed binary, e.g. /usr/bin/ztc"
  | .unknownMode mode => "ERROR: unknown dispatch_mode '" ++ mode ++ "'. Expected one of: " ++
    String.intercalate ", " modes
  | .unknownLogLevel level => "ERROR: unknown log_level '" ++ level ++ "'. Expected one of: " ++
    String.intercalate ", " logLevels

def Flaw.failure (flaw : Flaw) : Failure where
  kind := .settings
  message := flaw.message

def flaw? (s : Settings) : Option Flaw :=
  if !Path.isAbsolute s.toolPath then some (.relativePath s.toolPath)
  else if s.mode ∉ modes then some (.unknownMode s.mode)
  else if Text.upper s.logLevel ∉ logLevels then some (.unknownLogLevel s.logLevel)
  else none

def validate (s : Settings) : Except Failure Settings :=
  match s.flaw? with
  | some flaw => .error flaw.failure
  | none => .ok s

end Settings

end Handover

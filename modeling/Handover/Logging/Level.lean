/-! Levels of log records, and the names by which they are set. -/

namespace Handover.Logging

inductive Severity where
  | debug
  | warning
  deriving DecidableEq

namespace Severity

def name : Severity → String
  | .debug => "DEBUG"
  | .warning => "WARNING"

def level : Severity → Nat
  | .debug => 10
  | .warning => 30

end Severity

def levelNames : List (String × Nat) := [
  ("CRITICAL", 50), ("FATAL", 50), ("ERROR", 40), ("WARNING", 30), ("WARN", 30), ("INFO", 20),
  ("DEBUG", 10), ("NOTSET", 0)]

def level? (name : String) : Option Nat := levelNames.lookup name

end Handover.Logging

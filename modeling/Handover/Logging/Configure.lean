import Handover.Run
import Handover.Text.Case

/-! Setting the levels of loggers by name. -/

namespace Handover.Logging

/-- Gives a logger the level of that name in any case. An empty name changes nothing, and so does a
logger that this program does not write to. -/
def setLevel (logger : Option Logger) (level : String) : Run Unit :=
  if level.isEmpty then pure ()
  else
    match level? (Text.upper level), logger with
    | none, _ => .breakDown (.unknownLevel (Text.upper level))
    | some n, some logger => .event (.setLevel logger n)
    | some _, none => pure ()

/-- Sets the level of the program as a whole. Loggers with a level of their own keep it. -/
def configure (level : String) : Run Unit := setLevel (some .package) level

end Handover.Logging

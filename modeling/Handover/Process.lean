import Handover.Run

/-! The state of this process that outlives an operation: the levels of its loggers and its signal
handlers. Events change it, and the levels decide which records are kept. -/

namespace Handover

structure LogRecord where
  severity : Logging.Severity
  logger : Logging.Logger
  message : String
  deriving DecidableEq

structure Process where
  levels : Logging.Levels := {}
  handlers : Handlers := {}
  deriving DecidableEq

namespace Process

def after (p : Process) : Event → Process
  | .record .. => p
  | .setLevel logger level => { p with levels := p.levels.set logger level }
  | .setHandlers handlers => { p with handlers := handlers }

def records (p : Process) : Event → List LogRecord
  | .record severity logger message =>
    if p.levels.admits logger severity then [⟨severity, logger, message⟩] else []
  | _ => []

def replay (p : Process) : List Event → Process × List LogRecord
  | [] => (p, [])
  | event :: rest =>
    let (last, kept) := (p.after event).replay rest
    (last, p.records event ++ kept)

end Process

end Handover

import Handover.CommandLine.Answer
import Handover.Process

/-!
Sessions: operations one after the other in one process, while the world around it changes. An
operation sees the world and the signal handlers as they are, and leaves events behind. Whether it
fails makes no difference to the session.
-/

namespace Handover

inductive Change where
  | write (path : String) (entry : FileEntry)
  | remove (path : String)
  | setVariable (name : String) (value : Option String)
  | setChild (child : Child)

namespace World

def setVariable (w : World) (name : String) (value : Option String) : World :=
  let others := w.environment.filter (·.1 != name)
  { w with environment := (value.map fun v => (name, v)).toList ++ others }

def changed (w : World) : Change → World
  | .write path entry => { w with files := w.files.write (Files.placeOf w.directory path) entry }
  | .remove path => { w with files := w.files.remove (Files.placeOf w.directory path) }
  | .setVariable name value => w.setVariable name value
  | .setChild child => { w with child }

end World

inductive Operation where
  | load (requested : Option String) (environment : Option Environment)
  | check (path : String)
  | start (path mode : String) (mainThread : Bool) (dispatch : Dispatch)
  | call (name : String) (tokens : List String) (settings : Option Settings)
  | script (invocation : Invocation)
  | program (args : List String)
  | configure (level : String)
  | logger (name level : String)

inductive Outcome where
  | done
  | loaded (settings : Settings)
  | ended (ending : CommandLine.Ending)
  deriving DecidableEq

namespace Operation

def exited (run : Run Int) : Run Outcome := (fun status => .ended (.status status)) <$> run

def perform (operation : Operation) (w : World) (handlers : Handlers) : Run Outcome :=
  match operation with
  | .load requested given =>
    .loaded <$> Settings.load { w with environment := given.getD w.environment } requested
  | .check path => do
    let dispatcher ← .ofExcept ((Dispatcher.ofPath path "exec").mapError .failure)
    .ofExcept ((Dispatcher.check w dispatcher.path).mapError .failure)
    pure .done
  | .start path mode mainThread dispatch => exited do
    let dispatcher ← .ofExcept ((Dispatcher.ofPath path mode).mapError .failure)
    dispatcher.run w handlers mainThread dispatch
  | .call name tokens settings =>
    match Command.ofName? name with
    | some command => exited (Invocation.carryOut { command, tokens } w handlers settings)
    | none => .breakDown (.unknownCommand name)
  | .script invocation => exited (invocation.carryOut w handlers none)
  | .program args => .ended <$> (CommandLine.ofArguments args).perform w handlers
  | .configure level => do
    Logging.configure level
    pure .done
  | .logger name level => do
    Logging.setLevel (Logging.Logger.ofName? name) level
    pure .done

end Operation

inductive Step where
  | change (change : Change)
  | operate (operation : Operation)

structure Session where
  world : World := {}
  process : Process := {}

namespace Session

structure Report where
  run : Run Outcome
  records : List LogRecord

def report (s : Session) (operation : Operation) : Report :=
  let run := operation.perform s.world s.process.handlers
  { run, records := (s.process.replay run.trace.events).2 }

def after (s : Session) : Step → Session
  | .change change => { s with world := s.world.changed change }
  | .operate operation =>
    let run := operation.perform s.world s.process.handlers
    { s with process := (s.process.replay run.trace.events).1 }

def afterAll (s : Session) (history : List Step) : Session := history.foldl after s

end Session

end Handover

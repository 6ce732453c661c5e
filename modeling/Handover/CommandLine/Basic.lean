import Handover.Verdict

/-!
What the program is asked to do by its arguments. Leading options are its own. Behind the name of a
subcommand, tokens that look like options are kept for the legacy script, and the first separator
only ends the options.
-/

namespace Handover

inductive Request where
  | run (invocation : Invocation)
  | explain (invocation : Invocation)
  | mappings (chosen : Option Command)
  deriving DecidableEq

inductive CommandLine where
  | request (request : Request)
  | help
  | completion
  | misuse
  deriving DecidableEq

namespace CommandLine

def helpOption : String := "--help"

def completionOptions : List String := ["--install-completion", "--show-completion"]

/-- A single dash is a value. -/
def isOption (token : String) : Bool :=
  match token.toList with
  | '-' :: _ :: _ => true
  | _ => false

/-- The help option takes no value, so one that has a value is refused. -/
def hasHelpValue (token : String) : Bool := (helpOption ++ "=").toList.isPrefixOf token.toList

structure Sorted where
  help : Bool := false
  kept : List String := []
  deriving DecidableEq

/-- Sorts arguments up to a separator, behind which all are kept. Unknown options are kept too if
`lenient`, and otherwise refused. -/
def sort? (lenient : Bool) : List String → Option Sorted
  | [] => some {}
  | token :: rest =>
    if token = "--" then some { kept := rest }
    else if token = helpOption then (sort? lenient rest).map fun s => { s with help := true }
    else if hasHelpValue token ∨ (isOption token ∧ !lenient) then none
    else (sort? lenient rest).map fun s => { s with kept := token :: s.kept }

def invocation? : List String → Option Invocation
  | [] => none
  | name :: tokens => (Command.ofName? name).map fun command => { command, tokens }

def chosen? : List String → Option (Option Command)
  | [] => some none
  | [name] => (Command.ofName? name).map some
  | _ => none

/-- Help comes before any question about the other arguments. -/
def settle (sorted : Option Sorted) (request? : List String → Option Request) : CommandLine :=
  match sorted with
  | none => .misuse
  | some s =>
    if s.help then .help else ((request? s.kept).map .request).getD .misuse

def ofSubcommand (name : String) (args : List String) : CommandLine :=
  match name with
  | "run" => settle (sort? true args) fun kept => (invocation? kept).map .run
  | "explain" => settle (sort? true args) fun kept => (invocation? kept).map .explain
  | "mappings" => settle (sort? false args) fun kept => (chosen? kept).map .mappings
  | _ => .misuse

def leading : List String → List String × List String
  | [] => ([], [])
  | token :: rest =>
    if token = "--" then ([], rest)
    else if isOption token then
      let (options, rest) := leading rest
      (token :: options, rest)
    else ([], token :: rest)

def ofArguments (args : List String) : CommandLine :=
  let (options, rest) := leading args
  if options.any fun option => !(helpOption :: completionOptions).contains option then .misuse
  else if options.contains helpOption then .help
  else if !options.isEmpty then .completion
  else
    match rest with
    | [] => .misuse
    | name :: args => ofSubcommand name args

end CommandLine

end Handover

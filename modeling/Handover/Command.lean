/-!
The legacy scripts, the names they are called by, and the subcommand of the current tool that does
the work of each.
-/

namespace Handover

inductive Command where
  | fix
  | prepare
  | scan
  | fixHost
  deriving DecidableEq

namespace Command

def all : List Command := [.fix, .prepare, .scan, .fixHost]

def name : Command → String
  | .fix => "fix"
  | .prepare => "prepare"
  | .scan => "scan"
  | .fixHost => "fix-host"

def script : Command → String
  | .fix => "fix.py"
  | .prepare => "prepare.py"
  | .scan => "scan.py"
  | .fixHost => "fix.sh"

def target : Command → String
  | .fix => "fix"
  | .prepare => "prepare"
  | .scan => "scan"
  | .fixHost => "fix"

def ofName? (name : String) : Option Command := all.find? (·.name == name)

theorem ofName?_name (c : Command) : ofName? c.name = some c := by cases c <;> decide

end Command

end Handover

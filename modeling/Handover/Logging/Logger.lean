import Handover.Logging.Level

/-!
Loggers form a tree. One that has no level of its own, which level zero stands for, takes that of
its parent.
-/

namespace Handover.Logging

inductive Logger where
  | root
  | package
  | dispatch
  | settings
  | verdict
  deriving DecidableEq

namespace Logger

def name : Logger → String
  | .root => "root"
  | .package => "ztcshim"
  | .dispatch => "ztcshim.dispatch"
  | .settings => "ztcshim.settings"
  | .verdict => "ztcshim.translation"

def packaged : List Logger := [.package, .dispatch, .settings, .verdict]

/-- The logger of a name. Other names have loggers too, but none that this program writes to. -/
def ofName? (name : String) : Option Logger :=
  if name = "" then some .root else (.root :: packaged).find? (·.name == name)

end Logger

structure Levels where
  root : Nat := 30
  package : Nat := 30
  dispatch : Nat := 0
  settings : Nat := 0
  verdict : Nat := 0
  deriving DecidableEq

namespace Levels

def own (l : Levels) : Logger → Nat
  | .root => l.root
  | .package => l.package
  | .dispatch => l.dispatch
  | .settings => l.settings
  | .verdict => l.verdict

def set (l : Levels) (logger : Logger) (level : Nat) : Levels :=
  match logger with
  | .root => { l with root := level }
  | .package => { l with package := level }
  | .dispatch => { l with dispatch := level }
  | .settings => { l with settings := level }
  | .verdict => { l with verdict := level }

def effective (l : Levels) (logger : Logger) : Nat :=
  let orElse (own inherited : Nat) : Nat := if own = 0 then inherited else own
  match logger with
  | .root => l.root
  | .package => orElse l.package l.root
  | other => orElse (l.own other) (orElse l.package l.root)

def admits (l : Levels) (logger : Logger) (severity : Severity) : Bool :=
  l.effective logger ≤ severity.level

theorem own_set_self (l : Levels) (logger : Logger) (level : Nat) :
    (l.set logger level).own logger = level := by
  cases logger <;> rfl

theorem own_set_of_ne (l : Levels) {logger other : Logger} (different : other ≠ logger)
    (level : Nat) : (l.set logger level).own other = l.own other := by
  cases logger <;> cases other <;> simp_all [own, set]

end Levels

end Handover.Logging

/-! The signals that a supervised process receives, and who handles them in this process. -/

namespace Handover

inductive Signal where
  | interrupt
  | terminate
  | hangup
  deriving DecidableEq

namespace Signal

def forwarded : List Signal := [.interrupt, .terminate, .hangup]

def name : Signal → String
  | .interrupt => "SIGINT"
  | .terminate => "SIGTERM"
  | .hangup => "SIGHUP"

def number : Signal → Nat
  | .interrupt => 2
  | .terminate => 15
  | .hangup => 1

def ofName? (name : String) : Option Signal := forwarded.find? (·.name == name)

end Signal

inductive Handler where
  | standard
  | custom (id : Nat)
  | forwarding
  deriving DecidableEq

structure Handlers where
  interrupt : Handler := .standard
  terminate : Handler := .standard
  hangup : Handler := .standard
  deriving DecidableEq

namespace Handlers

def get (h : Handlers) : Signal → Handler
  | .interrupt => h.interrupt
  | .terminate => h.terminate
  | .hangup => h.hangup

def set (h : Handlers) (signal : Signal) (handler : Handler) : Handlers :=
  match signal with
  | .interrupt => { h with interrupt := handler }
  | .terminate => { h with terminate := handler }
  | .hangup => { h with hangup := handler }

def forwarding (h : Handlers) : List Signal :=
  Signal.forwarded.filter fun signal => h.get signal == .forwarding

end Handlers

end Handover

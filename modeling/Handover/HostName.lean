import Handover.Failure
import Handover.Text.Blank
import Handover.Text.Case

/-!
Host names that can be remediated. A macro that was left unresolved and the virtual hosts, which
stand for no machine, cannot.
-/

namespace Handover.HostName

def virtualHosts : List String :=
  ["vulners.hosts", "vulners.packages", "vulners.bulletins", "vulners.statistics"]

inductive Problem where
  | unresolvedMacro
  | virtualHost
  deriving DecidableEq

def problem? (host : String) : Option Problem :=
  if host.toList.head? = some '\x7b' ∧ host.toList.getLast? = some '\x7d' then some .unresolvedMacro
  else if Text.lower host ∈ virtualHosts then some .virtualHost
  else none

def Problem.description : Problem → String
  | .unresolvedMacro => "It is an unresolved Zabbix macro."
  | .virtualHost => "It is one of the virtual hosts created by 'ztc prepare'."

def refusal (host : String) (problem : Problem) : Failure where
  kind := .unsupported
  message := "ERROR: '" ++ host ++ "' is not a real monitored host.\n\n" ++
    problem.description ++ "\n" ++
    "Remediating it would run package commands against a loopback\n" ++
    "virtual host instead of the machine that needs fixing.\n\n" ++
    "Pass the technical name of the monitored host, for example:\n" ++
    "  fix.sh <real-hostname>\n" ++
    "  ztc fix --host-name <real-hostname> --dry-run   # preview"

def check (host : String) : Except Failure Unit :=
  match problem? host with
  | some problem => .error (refusal host problem)
  | none => .ok ()

end Handover.HostName

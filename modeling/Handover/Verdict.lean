import Handover.Flag.Table
import Handover.HostName
import Handover.Respelling

/-!
What becomes of a legacy invocation: it is dispatched to the current tool, it is refused, or its
caller is shown what to do. Nothing is started here, and nothing but the invocation is looked at.
-/

namespace Handover

structure Dispatch where
  command : String
  args : List String := []
  warnings : List String := []
  deriving DecidableEq

def Dispatch.argv (d : Dispatch) : List String := d.command :: d.args

inductive Verdict where
  | dispatch (dispatch : Dispatch)
  | refuse (failure : Failure)
  | help (message : String)
  deriving DecidableEq

def Verdict.status? : Verdict → Option Int
  | .dispatch _ => none
  | .refuse failure => some failure.status
  | .help _ => some 0

structure Invocation where
  command : Command
  tokens : List String
  deriving DecidableEq

inductive Invocation.Style where
  | noArguments
  | positional
  | flags
  deriving DecidableEq

def Invocation.Style.name : Style → String
  | .noArguments => "no-args"
  | .positional => "positional-unsupported"
  | .flags => "flag-style"

namespace Invocation

def style (i : Invocation) : Style :=
  match i.command, i.tokens with
  | .fix, _ => .positional
  | _, [] => .noArguments
  | _, _ :: _ => .flags

def positionalRefusal (tokens : List String) : Failure where
  kind := .unsupported
  message := "ERROR: Legacy fix.py action format is not supported by the Go version.\n\n" ++
    "The Python fix.py derived target hosts from trigger/event context\n" ++
    "and checked TrustedZabbixUsers. The Go version does not implement\n" ++
    "these features.\n\n" ++
    "IMPORTANT: \x7bHOST.HOST\x7d resolves to a virtual host (e.g. vulners.packages),\n" ++
    "NOT the actual target machine. Do NOT pass it to ztc fix.\n\n" ++
    "To fix a specific host, run:\n" ++
    "  ztc fix --host-name <real-hostname> --dry-run   # preview\n" ++
    "  ztc fix --host-name <real-hostname> --force      # execute\n\n" ++
    "Arguments received: " ++ String.intercalate " " tokens

def prepareHelp : String :=
  "WARNING: prepare.py called with no arguments.\n" ++
  "Legacy behavior: show help and exit (no changes made).\n\n" ++
  "To create all Zabbix objects, run:\n" ++
  "  ztc prepare --all\n" ++
  "  ztc prepare --all --force   # after upgrade from Python version\n\n" ++
  "Available flags:\n" ++
  "  -u  check utility paths (no-op in Go)\n" ++
  "  -v  create virtual hosts\n" ++
  "  -t  create/update templates\n" ++
  "  -d  create dashboard"

def fixHostUsage : Failure where
  kind := .malformed
  message := "Usage: fix.sh <real-hostname>\n\n" ++
    "WARNING: Do NOT use the \x7bHOST.HOST\x7d macro, it resolves to the\n" ++
    "virtual host, not the target machine."

def fixHostArgs (tokens : List String) : Except Failure (List String) :=
  match tokens with
  | [host] =>
    if host.toList.head? = some '-' ∨ Text.isAllBlank host then .error fixHostUsage
    else (HostName.check host).map fun _ => ["--host-name", host, "--force"]
  | _ => .error fixHostUsage

def withoutArguments (command : Command) : Verdict :=
  match command with
  | .prepare => .help prepareHelp
  | .fixHost => .refuse fixHostUsage
  | .fix | .scan => .dispatch { command := command.target }

end Invocation

def Command.dialect (command : Command) : Dialect where
  flags := command.flags
  renames := command.renames
  program := command.script

namespace Invocation

def ofFlags (i : Invocation) : Except Trouble Dispatch :=
  match i.command with
  | .fixHost =>
    match fixHostArgs i.tokens with
    | .ok args => .ok { command := i.command.target, args }
    | .error failure => .error (.failure failure)
  | _ =>
    match i.command.dialect.respell i.tokens with
    | .ok r => .ok { command := i.command.target, args := r.args, warnings := r.warnings }
    | .error obstacle => .error obstacle.trouble

def verdict (i : Invocation) : Except Breakdown Verdict :=
  match i.style with
  | .positional => .ok (.refuse (positionalRefusal i.tokens))
  | .noArguments => .ok (withoutArguments i.command)
  | .flags =>
    match i.ofFlags with
    | .ok dispatch => .ok (.dispatch dispatch)
    | .error (.failure failure) => .ok (.refuse failure)
    | .error (.breakdown breakdown) => .error breakdown

end Invocation

end Handover

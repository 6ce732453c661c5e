import Handover.Command
import Handover.Flag.Basic

/-! The flags of each legacy script. -/

namespace Handover

def dumpWarning : String := "WARNING: --dump is approximated as --dry-run (no disk dump)."

/-- Flags that every subcommand of the current tool knows. They are listed for each script, so that
their values are not taken for flags. -/
def globalFlags : List Flag := [
  { legacy := "-c", current := some "-c", takesValue := true },
  { legacy := "--config", current := some "--config", takesValue := true }]

def prepareFlags : List Flag := [
  { legacy := "-u", current := some "-u", fidelity := .noOp },
  { legacy := "-v", current := some "-V" },
  { legacy := "-t", current := some "-t" },
  { legacy := "-d", current := some "-d" },
  { legacy := "--vhosts", current := some "--virtual-hosts" },
  { legacy := "--template", current := some "--templates" }] ++ globalFlags

def scanFlags : List Flag := [
  { legacy := "-n", current := some "--nopush" },
  { legacy := "--nopush", current := some "--nopush" },
  { legacy := "-l", current := some "--limit", takesValue := true },
  { legacy := "--limit", current := some "--limit", takesValue := true },
  { legacy := "-d", current := some "--dry-run", fidelity := .approximate,
    warning := some dumpWarning },
  { legacy := "--dump", current := some "--dry-run", fidelity := .approximate,
    warning := some dumpWarning }] ++ globalFlags

namespace Command

def flags : Command → FlagTable
  | .fix => []
  | .prepare => FlagTable.ofFlags prepareFlags
  | .scan => FlagTable.ofFlags scanFlags
  | .fixHost => FlagTable.ofFlags globalFlags

/-- Letters that are spelled differently inside a cluster. The current tool has a flag of its own
under `-v`. -/
def renames : Command → List (String × String)
  | .prepare => [("v", "V")]
  | .fix | .scan | .fixHost => []

def lossyFlags (command : Command) : List String :=
  (command.flags.filter (·.2.isLossy)).map (·.1)

end Command

end Handover

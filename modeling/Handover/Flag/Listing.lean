import Handover.Flag.Table
import Handover.Grid.Layout
import Handover.Value.Display

/-! The tables of flags that are shown to the user. -/

namespace Handover

structure FlagNote where
  current : Value := .null
  fidelity : Value := .null
  takesValue : Value := .null
  warning : Value := .null

namespace FlagNote

def ofFlag (flag : Flag) : FlagNote where
  current := (flag.current.map .text).getD .null
  fidelity := .text flag.fidelity.name
  takesValue := .bool flag.takesValue
  warning := (flag.warning.map .text).getD .null

def cell (value : Value) : String := if value.isPresent then value.display else ""

def row (flag : String) (note : FlagNote) : List String :=
  [flag, cell note.current, cell note.fidelity, if note.takesValue.isPresent then "yes" else "",
    cell note.warning]

end FlagNote

namespace Listing

/-- A flag that is listed twice keeps its first place and its last note. -/
def grid (title : String) (caption : Option String) (notes : List (String × FlagNote)) : Grid where
  title := title
  caption := caption
  headers := ["Legacy flag", "ztc flag", "Class", "Value", "Warning"]
  rows := (Entries.ofList (· == ·) notes).map fun (flag, note) => note.row flag

def caption : Command → String
  | .fix => "Every fix.py invocation is refused."
  | .prepare => "No arguments: show help and exit 0 without running ztc."
  | .scan => "No arguments: runs 'ztc scan'."
  | .fixHost =>
    "fix.sh <real-hostname> runs 'ztc fix --host-name <real-hostname> --force'."

def notes (command : Command) : List (String × FlagNote) :=
  command.flags.map (fun (token, flag) => (token, FlagNote.ofFlag flag)) ++
    command.renames.map fun (letter, renamed) =>
      ("-" ++ letter ++ " (in cluster)",
        { current := .text ("-" ++ renamed), fidelity := .text Fidelity.exact.name })

def ofCommand (command : Command) : Grid :=
  grid command.script (some (caption command)) (notes command)

end Listing

end Handover

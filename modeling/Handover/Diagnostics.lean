import Handover.Text.Terminal
import Handover.Verdict

/-!
Diagnostics for the caller, one line group for each text. Texts are painted for the stream, and
since the stream is no terminal, all control sequences are taken out again.
-/

namespace Handover.Diagnostics

def written (colour : Text.Colour) (text : String) : String :=
  Text.withoutSequences (Text.painted colour text) ++ "\n"

def warning (text : String) : String := written .yellow text

def refusal (text : String) : String := written .red text

def ofVerdict : Verdict → String
  | .dispatch dispatch => String.join (dispatch.warnings.map warning)
  | .help message => warning message
  | .refuse failure => refusal failure.text

/-- A report may be asked for something that is no verdict. -/
def ofReports (reports : List (Except String Verdict)) : Except Breakdown String :=
  reports.foldlM (fun text report =>
    match report with
    | .ok verdict => .ok (text ++ ofVerdict verdict)
    | .error given => .error (.notAVerdict given)) ""

end Handover.Diagnostics

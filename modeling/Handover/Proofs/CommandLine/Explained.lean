import Handover.Proofs.CommandLine
import Handover.Proofs.Text.Json.Reading

/-!
What the program explains, read by another program. An invocation that comes to a dispatch is shown
as a document, whose texts are just the tokens of the caller and what would be carried out.
-/

namespace Handover

namespace Operation

variable {i : Invocation} {d : Dispatch}

/-- A run has succeeded, and a reader finds this dispatch of an invocation in its output, from which
nothing was taken out. -/
structure Documents (i : Invocation) (d : Dispatch) (run : Run Outcome) : Prop where
  succeeded : run.result = .ok (.ended (.status 0))
  whole : run.trace.output = i.explanation d ++ "\n"
  read : Text.Json.read? run.trace.output = some (.object [
    ("legacy", .ofTexts (i.command.script :: i.tokens)),
    ("argv", .ofTexts ("ztc" :: d.argv)),
    ("warnings", .ofTexts d.warnings)])

/-- Whatever the tokens are that come to a dispatch, the program can be asked for it. However it is
asked, its output is a document that says them character by character. -/
theorem documents_of_explain (verdict : i.verdict = .ok (.dispatch d)) :
    CommandLine.Names (i.command.name :: "--" :: i.tokens) i ∧
      ∀ args, CommandLine.Names args i → ∀ w handlers,
        Documents i d (perform (.program ("explain" :: args)) w handlers) := by
  refine ⟨CommandLine.names_separated i.command i.tokens, fun args names w handlers => ?_⟩
  obtain ⟨events, explained⟩ := perform_program_explain names verdict w handlers
  rw [explained]
  exact {
    succeeded := rfl
    whole := rfl
    read := Text.Json.read?_object _ }

theorem documents_of_explain_special :
    let tokens := ["-n", "--", "\"\\", "\x1b[31m", "\n", "é", "😀"]
    let run := perform (.program ("explain" :: "scan" :: "--" :: tokens)) {} {}
    Text.Json.read? run.trace.output = some (.object [
      ("legacy", .ofTexts (Command.scan.script :: tokens)),
      ("argv", .ofTexts ("ztc" :: "scan" :: "--nopush" :: tokens.tail)),
      ("warnings", .ofTexts [])]) := by
  have verdict : Invocation.verdict ⟨.scan, ["-n", "--", "\"\\", "\x1b[31m", "\n", "é", "😀"]⟩ =
      .ok (.dispatch {
        command := "scan"
        args := ["--nopush", "--", "\"\\", "\x1b[31m", "\n", "é", "😀"] }) := by
    rfl
  obtain ⟨names, documents⟩ := documents_of_explain verdict
  exact (documents _ names {} {}).read

end Operation

end Handover

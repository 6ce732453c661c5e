import Handover.CommandLine.Answer
import Handover.Proofs.Invocation
import Handover.Proofs.Text.Json
import Handover.Proofs.Verdict

/-!
What is shown about an invocation beforehand. The verdict and what the caller is told about it are
those of the run. A dispatch is shown as a document, and nothing is taken out of that.
-/

namespace Handover

theorem Command.clear_of_issues (c : Command) {warnings : List String}
    (issues : c.flags.Issues warnings) : ∀ warning ∈ warnings, '\x1b' ∉ warning.toList := by
  have clear : ∀ entry ∈ c.flags, ∀ warning ∈ entry.2.warnings, '\x1b' ∉ warning.toList := by
    cases c <;> decide
  intro warning member
  obtain ⟨entry, listed, given⟩ := issues warning member
  exact clear entry listed warning given

namespace Invocation

variable {i : Invocation} {v : Verdict} {d : Dispatch} {w : World} {handlers : Handlers}
  {given : Option Settings} {status : Int}

theorem ofVerdict_of_dispatch (verdict : i.verdict = .ok (.dispatch d)) :
    Diagnostics.ofVerdict (.dispatch d) = String.join (d.warnings.map (· ++ "\n")) :=
  Diagnostics.ofVerdict_of_clear (i.command.clear_of_issues (issues_of_dispatch verdict))

def shown (i : Invocation) : Verdict → String
  | .dispatch d => i.explanation d ++ "\n"
  | .refuse _ => ""
  | .help _ => ""

theorem explain_of_verdict (verdict : i.verdict = .ok v) :
    ∃ events, i.explain = ⟨{
      events
      diagnostics := Diagnostics.ofVerdict v
      output := i.shown v }, .ok (v.status?.getD 0)⟩ := by
  obtain ⟨events, -, announced⟩ := announce_of_verdict verdict
  refine ⟨events, ?_⟩
  unfold explain
  rw [announced, Run.bind_of_ok rfl]
  cases v with
  | refuse failure => exact congrArg (Run.mk · _) (Trace.append_empty _)
  | help message => exact congrArg (Run.mk · _) (Trace.append_empty _)
  | dispatch d =>
    have whole : Text.withoutSequences (i.explanation d) = i.explanation d :=
      Text.withoutSequences_of_plain (Text.Json.isPlain_object _)
    simp only [whole]
    refine congrArg (Run.mk · _) (Trace.ext rfl (List.append_nil events) String.append_empty ?_)
    exact String.empty_append.trans String.append_empty

theorem argv_of_dispatch (verdict : i.verdict = .ok (.dispatch d)) :
    ∀ p ∈ (i.carryOut w handlers given).trace.started, p.argv.tail = d.argv := by
  intro p member
  obtain ⟨s, -, -, carries⟩ := (started_of_dispatch verdict).2 p member
  rw [Started.argv_of_carries carries, List.tail_cons]

theorem diagnostics_of_dispatch (verdict : i.verdict = .ok (.dispatch d))
    (returned : (i.carryOut w handlers given).result = .ok status) :
    ∃ rest, (rest = "" ∨ Diagnostics.IsError rest) ∧
      (i.carryOut w handlers given).trace.diagnostics =
        Diagnostics.ofVerdict (.dispatch d) ++ rest := by
  rcases status_of_dispatch verdict returned with ⟨-, -, told⟩ | ⟨-, -, text, error, told⟩
  · exact ⟨"", .inl rfl, told.trans String.append_empty.symm⟩
  · exact ⟨text, .inr error, told⟩

end Invocation

end Handover

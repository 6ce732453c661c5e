import Handover.Proofs.Diagnostics
import Handover.Proofs.Text.Terminal

/-!
What verdicts are reported as. Each text has a line group of its own, in the order of the verdicts.
Of the colours nothing is left, and the text loses just the control sequences that it would lose
without them.
-/

namespace Handover

/-- The texts that the caller is to read about a verdict. -/
def Verdict.texts : Verdict → List String
  | .dispatch d => d.warnings
  | .help message => [message]
  | .refuse failure => [failure.text]

theorem Text.join_flatMap {α : Type} (items : List α) (texts : α → List String)
    (group : String → String) :
    String.join (items.map fun item => String.join ((texts item).map group)) =
      String.join ((items.flatMap texts).map group) := by
  induction items with
  | nil => rfl
  | cons item rest ih =>
    rw [List.map_cons, String.join_cons, ih, List.flatMap_cons, List.map_append, String.join_append]

namespace Diagnostics

theorem written_eq (colour : Text.Colour) (text : String) :
    written colour text = Text.withoutSequences text ++ "\n" := by
  refine congrArg (· ++ "\n") (String.toList_inj.mp ?_)
  rw [Text.toList_withoutSequences_painted]
  -- what switches the colour off begins with an escape character
  calc Text.dropSequences 0 (text.toList ++ "\x1b[0m".toList)
    _ = Text.dropSequences 0 text.toList ++ Text.dropSequences 0 "\x1b[0m".toList :=
      Text.dropSequences_append_escape text.toList ['[', '0', 'm']
    _ = Text.dropSequences 0 text.toList := List.append_nil _
    _ = (Text.withoutSequences text).toList := String.toList_ofList.symm

theorem ofVerdict_eq (v : Verdict) :
    ofVerdict v = String.join (v.texts.map fun text => Text.withoutSequences text ++ "\n") := by
  cases v with
  | dispatch d =>
    exact congrArg String.join (List.map_congr_left fun text _ => written_eq .yellow text)
  | help message =>
    rw [ofVerdict, warning, written_eq]
    simp [Verdict.texts]
  | refuse failure =>
    rw [ofVerdict, refusal, written_eq]
    simp [Verdict.texts]

theorem foldlM_of_verdicts {step : String → Except String Verdict → Except Breakdown String}
    (each : ∀ text v, step text (.ok v) = .ok (text ++ ofVerdict v)) (verdicts : List Verdict)
    (start : String) :
    (verdicts.map .ok).foldlM step start =
      .ok (start ++ String.join (verdicts.map ofVerdict)) := by
  induction verdicts generalizing start with
  | nil => simp [pure, Except.pure]
  | cons v rest ih =>
    rw [List.map_cons, List.foldlM_cons, each]
    refine (ih (start ++ ofVerdict v)).trans ?_
    simp [String.append_assoc]

theorem ofReports_eq (verdicts : List Verdict) :
    ofReports (verdicts.map .ok) = .ok (String.join (verdicts.map ofVerdict)) := by
  rw [ofReports, foldlM_of_verdicts (fun _ _ => rfl), String.empty_append]

/-- Verdicts are reported text by text. A text is written without the control sequences that are met
in it from left to right, and as it is if there is no escape character in it. -/
theorem ofReports_texts (verdicts : List Verdict) :
    ∃ kept : String → String,
      ofReports (verdicts.map .ok) =
        .ok (String.join ((verdicts.flatMap Verdict.texts).map fun text => kept text ++ "\n")) ∧
      (∀ text rest, Text.Without text.toList rest ↔ (kept text).toList = rest) ∧
      ∀ text, '\x1b' ∉ text.toList → kept text = text := by
  refine ⟨Text.withoutSequences, ?_, fun text rest => ?_, fun text => Text.withoutSequences_eq_self⟩
  · have each : verdicts.map ofVerdict = verdicts.map fun v =>
        String.join (v.texts.map fun text => Text.withoutSequences text ++ "\n") :=
      List.map_congr_left fun v _ => ofVerdict_eq v
    rw [ofReports_eq, each, Text.join_flatMap]
  · rw [Text.withoutSequences, String.toList_ofList]
    exact Text.without_iff

/-- An unfinished sequence at the end of a text is not finished by the colours. -/
example : written .red "a\x1b[31mb\x1b[3" = "ab\x1b[3\n" := by decide

end Diagnostics

end Handover

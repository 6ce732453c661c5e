import Handover.Proofs.Respelling.Asking
import Handover.Proofs.Text.Template

/-!
How invocations are refused. Nothing breaks down on the way to a verdict: no word is renamed that
cannot be, and the message about a host can be written for every host. So there always is a verdict,
and a refusal has one of two reasons, each with a status of its own.
-/

namespace Handover

theorem Obstacle.refuses_of_flag? {obstacle : Obstacle} {flag : Flag}
    (named : obstacle.flag? = some flag) :
    ∃ failure, obstacle.trouble = .failure failure ∧ failure.Refuses := by
  cases obstacle with
  | unsupported flag => exact ⟨_, rfl, .unsupported rfl rfl rfl⟩
  | valueRefused program flag token => exact ⟨_, rfl, .malformed rfl rfl rfl⟩
  | valueMissing program flag => exact ⟨_, rfl, .malformed rfl rfl rfl⟩
  | breakdown cause => cases named

theorem Dialect.respell_or_refuses (d : Dialect) (tokens : List String) :
    (∃ r, d.respell tokens = .ok r) ∨
      ∃ obstacle failure, d.respell tokens = .error obstacle ∧
        obstacle.trouble = .failure failure ∧ failure.Refuses := by
  cases respelled : d.respell tokens with
  | ok r => exact .inl ⟨r, rfl⟩
  | error obstacle =>
    obtain ⟨flag, named⟩ := d.exists_flag_of_respell respelled
    obtain ⟨failure, trouble, refuses⟩ := Obstacle.refuses_of_flag? named
    exact .inr ⟨obstacle, failure, rfl, trouble, refuses⟩

namespace HostName

def advice : String :=
  "\n" ++
  "Remediating it would run package commands against a loopback\n" ++
  "virtual host instead of the machine that needs fixing.\n\n" ++
  "Pass the technical name of the monitored host, for example:\n" ++
  "  fix.sh <real-hostname>\n" ++
  "  ztc fix --host-name <real-hostname> --dry-run   # preview"

theorem isText_advice : advice.toList.all Text.isText = true := by
  simp only [advice, String.toList_append, List.all_append, Bool.and_eq_true]
  and_intros <;> decide

def refusalTemplate : String :=
  "ERROR: '" ++ Text.field "host" ++ "' is not a real monitored host.\n\n" ++
    Text.field "reason" ++ advice

theorem fill?_refusalTemplate (host : String) (problem : Problem) :
    Text.fill? [("host", host), ("reason", problem.description)] refusalTemplate =
      some (refusal host problem).message := by
  have message : (refusal host problem).message = "ERROR: '" ++ (host ++
      ("' is not a real monitored host.\n\n" ++ (problem.description ++ advice))) := by
    simp only [refusal, advice, String.append_assoc]
  rw [message]
  simp only [refusalTemplate, String.append_assoc]
  rw [Text.fill?_text_append (by decide), Text.fill?_field_append (by decide) rfl,
    Text.fill?_text_append (by decide), Text.fill?_field_append (by decide) rfl,
    Text.fill?_of_text isText_advice]
  rfl

end HostName

namespace Invocation

/-- The invocation has a verdict: it is dispatched, or help is shown and the script ends well, or it
is refused. -/
inductive Answered (i : Invocation) : Prop where
  | dispatch {d : Dispatch} (verdict : i.verdict = .ok (.dispatch d))
  | help {message : String} (verdict : i.verdict = .ok (.help message))
    (status : (Verdict.help message).status? = some 0)
  | refuse {failure : Failure} (verdict : i.verdict = .ok (.refuse failure))
    (refuses : failure.Refuses)

theorem answered_of_flagged {i : Invocation} (flagged : i.Flagged) : i.Answered := by
  obtain ⟨style, ofFlags⟩ := ofFlags_of_flagged flagged
  rcases i.command.dialect.respell_or_refuses i.tokens with
    ⟨r, respelled⟩ | ⟨obstacle, failure, failed, trouble, refuses⟩
  · exact .dispatch (verdict_of_respelling flagged respelled)
  · refine .refuse ?_ refuses
    simp only [verdict, style, ofFlags, failed, trouble]

theorem answered_of_unflagged {i : Invocation} (unflagged : ¬i.Flagged) : i.Answered := by
  obtain ⟨v, verdict, unwarned⟩ := unwarned_of_unflagged unflagged
  cases unwarned with
  | dispatch _ => exact .dispatch verdict
  | help message => exact .help verdict rfl
  | refuse refuses => exact .refuse verdict refuses

theorem answered (i : Invocation) : i.Answered :=
  (Classical.em i.Flagged).elim answered_of_flagged answered_of_unflagged

/-- Nothing breaks down on the way to a verdict. The walk over a command line, which learns what
letters are written as only where it asks, asks for clusters only. So it ends well unless a flag is
in its way. A message can be written about every host. -/
theorem answered_without_breakdown (d : Dialect) (tokens : List String) (i : Invocation) :
    ((∀ renames : List (String × String), renames.isEmpty = d.renames.isEmpty →
        (d.asking tokens).run (renameCluster renames) =
          Dialect.respell { d with renames } tokens) ∧
      ∀ word ∈ (d.asking tokens).asked (renameCluster d.renames), Token.isCluster word = true) ∧
    ((∃ r, d.respell tokens = .ok r) ∨
      ∃ obstacle failure, d.respell tokens = .error obstacle ∧
        obstacle.trouble = .failure failure ∧ failure.Refuses) ∧
    (∀ (host : String) (problem : HostName.Problem),
      Text.fill? [("host", host), ("reason", problem.description)] HostName.refusalTemplate =
        some (HostName.refusal host problem).message) ∧
    i.Answered := by
  refine ⟨⟨fun renames alike => ?_, fun word member => ?_⟩, d.respell_or_refuses tokens,
    HostName.fill?_refusalTemplate, i.answered⟩
  · rw [← Dialect.asking_withRenames alike]
    exact Dialect.run_asking { d with renames } tokens
  · exact (d.sound_asking tokens).isCluster member

theorem answered_without_breakdown_braces :
    ((Command.prepare.dialect.asking ["-uvcetc", "-vc-"]).asked (renameCluster [("v", "V")]) =
        ["-uvc"] ∧ Token.isCluster "-uvc" = true ∧
      (Command.prepare.dialect.asking ["-uvcetc", "-vc-"]).run (renameCluster [("c", "--")]) =
        Dialect.respell { Command.prepare.dialect with renames := [("c", "--")] }
          ["-uvcetc", "-vc-"]) ∧
    ∃ failure,
      Invocation.verdict ⟨.fixHost, ["\x7b\x7b0\x7d\x7bhost\x7d"]⟩ = .ok (.refuse failure) ∧
        failure.Refuses := by
  obtain ⟨⟨respells, clusters⟩, -, -, answered⟩ := answered_without_breakdown
    Command.prepare.dialect ["-uvcetc", "-vc-"] ⟨.fixHost, ["\x7b\x7b0\x7d\x7bhost\x7d"]⟩
  have asked : (Command.prepare.dialect.asking ["-uvcetc", "-vc-"]).asked
      (renameCluster [("v", "V")]) = ["-uvc"] := by
    decide +kernel
  have member : "-uvc" ∈ (Command.prepare.dialect.asking ["-uvcetc", "-vc-"]).asked
      (renameCluster Command.prepare.dialect.renames) := asked ▸ List.mem_singleton_self "-uvc"
  refine ⟨⟨asked, clusters "-uvc" member, respells [("c", "--")] rfl⟩, ?_⟩
  cases answered with
  | dispatch verdict => cases verdict
  | help verdict => cases verdict
  | refuse verdict refuses => exact ⟨_, verdict, refuses⟩

end Invocation

end Handover

import Handover.Proofs.Respelling.Grammar
import Handover.Proofs.Respelling.Warnings
import Handover.Verdict

/-!
Verdicts on scripts that are called with flags. An invocation with tokens is dispatched unless a
flag is misused, and then it is refused with a message about the first such flag.
-/

namespace Handover

namespace Text

/-- The first text stands somewhere in the second. -/
def Within (part whole : String) : Prop := ∃ before after, whole = before ++ part ++ after

variable {part whole : String}

theorem within_append (start : String) (within : Within part whole) :
    Within part (start ++ whole) := by
  obtain ⟨before, after, same⟩ := within
  exact ⟨start ++ before, after, by rw [same]; simp only [String.append_assoc]⟩

theorem within_self (part rest : String) : Within part (part ++ rest) :=
  ⟨"", rest, by rw [String.empty_append]⟩

end Text

/-- A refusal is of one of two kinds, and has the status of its kind. -/
inductive Failure.Refuses (failure : Failure) : Prop where
  | malformed (kind : failure.kind = .malformed) (reason : failure.kind.reason = "malformed")
    (status : failure.status = 64)
  | unsupported (kind : failure.kind = .unsupported)
    (reason : failure.kind.reason = "unsupported") (status : failure.status = 77)

def Obstacle.flag? : Obstacle → Option Flag
  | .unsupported flag => some flag
  | .valueRefused _ flag _ => some flag
  | .valueMissing _ flag => some flag
  | .breakdown _ => none

namespace Dialect

variable {d : Dialect} {tokens : List String} {obstacle : Obstacle}

theorem proper_dialect (c : Command) : c.dialect.Proper := by cases c <;> decide

theorem failure_of_firstMisuse (misuse : d.FirstMisuse tokens obstacle) :
    ∃ flag failure, obstacle.flag? = some flag ∧ obstacle.trouble = .failure failure ∧
      failure.kind = .malformed ∧ failure.status = 64 ∧
      Text.Within (d.program ++ " " ++ flag.legacy) failure.message := by
  induction misuse with
  | @needless token rest flag leading needless =>
    refine ⟨flag, _, rfl, rfl, rfl, rfl, ?_⟩
    simp only [String.append_assoc]
    have shown := Text.within_self (d.program ++ (" " ++ flag.legacy)) ""
    rw [String.append_empty] at shown
    exact Text.within_append _ (Text.within_append _ (Text.within_append _
      (Text.within_append _ (Text.within_append _ shown))))
  | @missing token flag leading bare =>
    refine ⟨flag, _, rfl, rfl, rfl, rfl, ?_⟩
    have shown := Text.within_self (d.program ++ " " ++ flag.legacy) " <value>"
    simp only [String.append_assoc] at shown ⊢
    exact Text.within_append _ (Text.within_append _ (Text.within_append _
      (Text.within_append _ shown)))
  | behind leading fine complete later ih => exact ih
  | behindValue leading bare later ih => exact ih

end Dialect

namespace Invocation

variable {i : Invocation}

/-- The script takes flags, and is given some token. -/
def Flagged (i : Invocation) : Prop := (i.command = .prepare ∨ i.command = .scan) ∧ i.tokens ≠ []

theorem ofFlags_of_flagged (flagged : i.Flagged) :
    i.style = .flags ∧ i.ofFlags =
      match i.command.dialect.respell i.tokens with
      | .ok r => .ok { command := i.command.target, args := r.args, warnings := r.warnings }
      | .error obstacle => .error obstacle.trouble := by
  obtain ⟨command, tokens⟩ := i
  obtain ⟨script, some_token⟩ := flagged
  cases tokens with
  | nil => exact absurd rfl some_token
  | cons token rest =>
    rcases script with rfl | rfl
    · exact ⟨rfl, rfl⟩
    · exact ⟨rfl, rfl⟩

theorem verdict_of_respelling (flagged : i.Flagged) {r : Respelling}
    (respelled : i.command.dialect.respell i.tokens = .ok r) :
    i.verdict = .ok (.dispatch
      { command := i.command.target, args := r.args, warnings := r.warnings }) := by
  obtain ⟨style, ofFlags⟩ := ofFlags_of_flagged flagged
  simp only [verdict, style, ofFlags, respelled]

theorem verdict_of_obstacle (flagged : i.Flagged) {obstacle : Obstacle}
    (failed : i.command.dialect.respell i.tokens = .error obstacle) :
    ∃ flag failure, obstacle.flag? = some flag ∧ obstacle.trouble = .failure failure ∧
      i.verdict = .ok (.refuse failure) ∧ failure.kind = .malformed ∧ failure.status = 64 ∧
      Text.Within (i.command.script ++ " " ++ flag.legacy) failure.message := by
  have misuse := (Dialect.proper_dialect i.command).respell_eq_error_iff.mp failed
  obtain ⟨flag, failure, named, trouble, kind, status, shown⟩ :=
    Dialect.failure_of_firstMisuse misuse
  obtain ⟨style, ofFlags⟩ := ofFlags_of_flagged flagged
  refine ⟨flag, failure, named, trouble, ?_, kind, status, shown⟩
  simp only [verdict, style, ofFlags, failed, trouble]

theorem refuses_of_check {host : String} {failure : Failure}
    (refused : HostName.check host = .error failure) : failure.Refuses := by
  unfold HostName.check at refused
  split at refused
  · cases refused
    exact .unsupported rfl rfl rfl
  · cases refused

theorem refuses_of_fixHostArgs {tokens : List String} {failure : Failure}
    (refused : fixHostArgs tokens = .error failure) : failure.Refuses := by
  unfold fixHostArgs at refused
  split at refused
  · split at refused
    · cases refused
      exact .malformed rfl rfl rfl
    · exact refuses_of_check (map_eq_error_iff.mp refused)
  · cases refused
    exact .malformed rfl rfl rfl

inductive Unwarned : Verdict → Prop where
  | dispatch {d : Dispatch} (silent : d.warnings = []) : Unwarned (.dispatch d)
  | help (message : String) : Unwarned (.help message)
  | refuse {failure : Failure} (refuses : failure.Refuses) : Unwarned (.refuse failure)

theorem unwarned_of_unflagged (unflagged : ¬i.Flagged) : ∃ v, i.verdict = .ok v ∧ Unwarned v := by
  obtain ⟨command, tokens⟩ := i
  cases command with
  | fix => exact ⟨_, rfl, .refuse (.unsupported rfl rfl rfl)⟩
  | prepare =>
    obtain rfl : tokens = [] := by simpa [Flagged] using unflagged
    exact ⟨_, rfl, .help _⟩
  | scan =>
    obtain rfl : tokens = [] := by simpa [Flagged] using unflagged
    exact ⟨_, rfl, .dispatch rfl⟩
  | fixHost =>
    cases tokens with
    | nil => exact ⟨_, rfl, .refuse (.malformed rfl rfl rfl)⟩
    | cons token rest =>
      simp only [verdict, style, ofFlags]
      cases named : fixHostArgs (token :: rest) with
      | ok args => exact ⟨_, rfl, .dispatch rfl⟩
      | error failure => exact ⟨_, rfl, .refuse (refuses_of_fixHostArgs named)⟩

theorem exists_verdict (i : Invocation) : ∃ v, i.verdict = .ok v := by
  by_cases flagged : i.Flagged
  · cases respelled : i.command.dialect.respell i.tokens with
    | ok r => exact ⟨_, verdict_of_respelling flagged respelled⟩
    | error obstacle =>
      obtain ⟨-, failure, -, -, verdict, -⟩ := verdict_of_obstacle flagged respelled
      exact ⟨_, verdict⟩
  · obtain ⟨v, verdict, -⟩ := unwarned_of_unflagged flagged
    exact ⟨v, verdict⟩

theorem issues_of_dispatch {d : Dispatch} (verdict : i.verdict = .ok (.dispatch d)) :
    i.command.flags.Issues d.warnings := by
  by_cases flagged : i.Flagged
  · cases respelled : i.command.dialect.respell i.tokens with
    | ok r =>
      rw [verdict_of_respelling flagged respelled] at verdict
      cases verdict
      exact Dialect.issues_respell respelled
    | error obstacle =>
      obtain ⟨-, failure, -, -, refused, -⟩ := verdict_of_obstacle flagged respelled
      rw [refused] at verdict
      cases verdict
  · obtain ⟨v, own, unwarned⟩ := unwarned_of_unflagged flagged
    rw [own] at verdict
    cases verdict
    cases unwarned with
    | dispatch silent =>
      rw [silent]
      exact FlagTable.issues_nil

/-- An invocation with flags is refused exactly if a flag is misused. The message is about the first
such flag, and the refusal is always one of malformed arguments. Everything else is dispatched. -/
theorem verdict_of_flags (flagged : i.Flagged) :
    ((∃ failure, i.verdict = .ok (.refuse failure) ∧ failure.status = 64 ∧
        failure.kind.reason = "malformed") ↔
      ∃ obstacle, i.command.dialect.FirstMisuse i.tokens obstacle) ∧
    (∀ obstacle, i.command.dialect.FirstMisuse i.tokens obstacle →
      ∃ flag failure, obstacle.flag? = some flag ∧ obstacle.trouble = .failure failure ∧
        i.verdict = .ok (.refuse failure) ∧
        Text.Within (i.command.script ++ " " ++ flag.legacy) failure.message) ∧
    ((¬∃ obstacle, i.command.dialect.FirstMisuse i.tokens obstacle) →
      ∃ dispatch, i.verdict = .ok (.dispatch dispatch) ∧
        dispatch.command = i.command.target) := by
  have proper := Dialect.proper_dialect i.command
  have dispatched (fine : ¬∃ obstacle, i.command.dialect.FirstMisuse i.tokens obstacle) :
      ∃ dispatch, i.verdict = .ok (.dispatch dispatch) ∧
        dispatch.command = i.command.target := by
    obtain ⟨r, respelled⟩ := proper.exists_respell (not_exists.mp fine)
    exact ⟨_, verdict_of_respelling flagged respelled, rfl⟩
  refine ⟨⟨fun refused => ?_, fun misused => ?_⟩, fun obstacle misuse => ?_, dispatched⟩
  · obtain ⟨failure, verdict, -⟩ := refused
    refine Classical.byContradiction fun fine => ?_
    obtain ⟨dispatch, other, -⟩ := dispatched fine
    rw [verdict] at other
    cases other
  · obtain ⟨obstacle, misuse⟩ := misused
    obtain ⟨-, failure, -, -, verdict, kind, status, -⟩ :=
      verdict_of_obstacle flagged (proper.respell_eq_error_iff.mpr misuse)
    exact ⟨failure, verdict, status, by rw [kind]; rfl⟩
  · obtain ⟨flag, failure, named, trouble, verdict, -, -, shown⟩ :=
      verdict_of_obstacle flagged (proper.respell_eq_error_iff.mpr misuse)
    exact ⟨flag, failure, named, trouble, verdict, shown⟩

theorem verdict_of_flags_scan :
    ∃ failure, Invocation.verdict ⟨.scan, ["-l", "--", "-ndl"]⟩ = .ok (.refuse failure) ∧
      failure.status = 64 ∧ Text.Within "scan.py -l" failure.message := by
  have flagged : Flagged ⟨.scan, ["-l", "--", "-ndl"]⟩ := ⟨.inr rfl, by simp⟩
  obtain ⟨refused, shown, -⟩ := verdict_of_flags flagged
  -- the separator is the value of the first flag, and the last letter lacks its value
  have misuse : Command.scan.dialect.FirstMisuse ["-l", "--", "-ndl"]
      (.valueMissing "scan.py"
        { legacy := "-l", current := some "--limit", takesValue := true }) := by
    refine .behindValue (by decide) (.whole rfl rfl) (.missing (by decide) ?_)
    exact @Dialect.Bare.last _ _ _ ['n', 'd'] 'l' rfl (by decide) rfl rfl
      (List.forall_mem_cons.mpr ⟨rfl, List.forall_mem_singleton.mpr rfl⟩)
      (.inl (List.forall_mem_cons.mpr ⟨rfl, List.forall_mem_singleton.mpr rfl⟩))
  obtain ⟨failure, verdict, status, -⟩ := refused.mpr ⟨_, misuse⟩
  obtain ⟨flag, other, named, -, same, within⟩ := shown _ misuse
  rw [verdict] at same
  cases same
  cases named
  exact ⟨failure, verdict, status, within⟩

end Invocation

end Handover

import Handover.Proofs.CommandLine
import Handover.Proofs.Respelling.Append

/-!
Tokens of a script that stand directly behind its name. The first separator among them ends the
options of the program and goes no further. All other tokens reach the script, in their order.
-/

namespace Handover

namespace CommandLine

def AsksNoHelp (tokens : List String) : Prop :=
  ∀ token ∈ tokens, token ≠ helpOption ∧ hasHelpValue token = false

instance (tokens : List String) : Decidable (AsksNoHelp tokens) :=
  inferInstanceAs (Decidable (∀ token ∈ tokens, _))

theorem sort?_of_asksNoHelp {tokens : List String} (plain : AsksNoHelp tokens) :
    sort? true tokens = some { kept := tokens.erase "--" } := by
  induction tokens with
  | nil => rfl
  | cons token rest ih =>
    obtain ⟨no_help, no_value⟩ := plain token List.mem_cons_self
    by_cases separator : token = "--"
    · -- what follows the first separator is kept, further separators included
      rw [sort?, if_pos separator, separator, List.erase_cons_head]
    · have others : AsksNoHelp rest := by
        intro other member
        exact plain other (List.mem_cons_of_mem token member)
      have lenient : ¬(hasHelpValue token = true ∨ isOption token = true ∧ (!true) = true) := by
        simp [no_value]
      have erased : (token :: rest).erase "--" = token :: rest.erase "--" :=
        List.erase_cons_tail (by simpa using separator)
      rw [sort?, if_neg separator, if_neg no_help, if_neg lenient, ih others, erased]
      rfl

theorem names_direct (c : Command) {tokens : List String} (plain : AsksNoHelp tokens) :
    Names (c.name :: tokens) ⟨c, tokens.erase "--"⟩ := by
  have named : AsksNoHelp (c.name :: tokens) := by
    have name : c.name ≠ helpOption ∧ hasHelpValue c.name = false := by cases c <;> decide
    exact List.forall_mem_cons.mpr ⟨name, plain⟩
  have erased : (c.name :: tokens).erase "--" = c.name :: tokens.erase "--" := by
    have name : c.name ≠ "--" := by cases c <;> decide
    exact List.erase_cons_tail (by simpa using name)
  have sorted := sort?_of_asksNoHelp named
  rw [erased] at sorted
  exact sorted

end CommandLine

namespace Session

theorem argv_of_report (s : Session) {i : Invocation} {d : Dispatch}
    (verdict : i.verdict = .ok (.dispatch d)) :
    ∀ p ∈ (s.report (.script i)).run.trace.started, p.argv.tail = d.argv := by
  have carried : (s.report (.script i)).run.trace =
      (i.carryOut s.world s.process.handlers none).trace :=
    congrArg Run.trace (Run.map_eq _ (i.carryOut s.world s.process.handlers none))
  intro p member
  rw [carried] at member
  exact Invocation.argv_of_dispatch verdict p member

/-- Directly behind the name of the script, the program stands for the script with all tokens but
the first separator. A separator that comes after it, where a flag may stand, reaches the tool with
everything behind it. -/
theorem report_run_direct (s : Session) (c : Command) {tokens : List String}
    (plain : CommandLine.AsksNoHelp tokens) :
    s.report (.program ("run" :: c.name :: tokens)) = s.report (.script ⟨c, tokens.erase "--"⟩) ∧
      s.after (.operate (.program ("run" :: c.name :: tokens))) =
        s.after (.operate (.script ⟨c, tokens.erase "--"⟩)) ∧
      ("--" ∉ tokens →
        s.report (.program ("run" :: c.name :: tokens)) = s.report (.script ⟨c, tokens⟩)) ∧
      ∀ (before data : List String) (r : Respelling), c = .prepare ∨ c = .scan →
        tokens.erase "--" = before ++ "--" :: data → .terminator ∉ c.dialect.roles before →
        c.dialect.respell before = .ok r →
          Invocation.verdict ⟨c, tokens.erase "--"⟩ = .ok (.dispatch
            { command := c.target, args := r.args ++ "--" :: data, warnings := r.warnings }) ∧
          ∀ p ∈ (s.report (.program ("run" :: c.name :: tokens))).run.trace.started,
            p.argv.tail = c.target :: (r.args ++ "--" :: data) := by
  have run := Operation.perform_program (CommandLine.names_direct c plain)
  have same : s.report (.program ("run" :: c.name :: tokens)) =
      s.report (.script ⟨c, tokens.erase "--"⟩) := by
    simp only [report, run]
  refine ⟨same, ?_, ?_, ?_⟩
  · simp only [after, run]
  · intro unseparated
    rw [same, List.erase_of_not_mem unseparated]
  · intro before data r script split unended respelled
    have whole : c.dialect.respell (tokens.erase "--") =
        .ok ⟨r.args ++ "--" :: data, r.warnings⟩ := by
      rw [split]
      exact Dialect.respell_separated respelled unended data
    have some_token : tokens.erase "--" ≠ [] := by simp [split]
    have verdict := Invocation.verdict_of_respelling (i := ⟨c, tokens.erase "--"⟩)
      ⟨script, some_token⟩ whole
    rw [same]
    exact ⟨verdict, s.argv_of_report verdict⟩

/-- The second separator is a value, and the third ends the flags. -/
theorem report_run_direct_scan :
    Invocation.verdict ⟨.scan, ["-n", "--", "--limit", "--", "--", "--dump"].erase "--"⟩ =
        .ok (.dispatch {
          command := "scan"
          args := ["--nopush", "--limit", "--", "--", "--dump"] }) ∧
      ({} : Session).report (.program ["run", "scan", "-n", "-l", "-d"]) =
        ({} : Session).report (.script ⟨.scan, ["-n", "-l", "-d"]⟩) := by
  have plain : CommandLine.AsksNoHelp ["-n", "--", "--limit", "--", "--", "--dump"] := by decide
  obtain ⟨-, -, -, data⟩ := report_run_direct {} .scan plain
  have other : CommandLine.AsksNoHelp ["-n", "-l", "-d"] := by decide
  obtain ⟨-, -, unseparated, -⟩ := report_run_direct {} .scan other
  exact ⟨(data ["-n", "--limit", "--"] ["--dump"] ⟨["--nopush", "--limit", "--"], []⟩ (.inr rfl) rfl
    (by decide) rfl).1, unseparated (by decide)⟩

def shown (operation : Operation) : Trace :=
  (report { world := .equipped } operation).run.trace

/-- The first separator is lost on the way, and what was data behind it is read as flags. -/
theorem report_run_terminated :
    CommandLine.AsksNoHelp ["--", "--dump"] ∧
      (shown (.program ["run", "scan", "--", "--dump"])).started =
        [.replaced "/usr/bin/ztc" ["/usr/bin/ztc", "scan", "--dry-run"]] ∧
      (shown (.script ⟨.scan, ["--", "--dump"]⟩)).started =
        [.replaced "/usr/bin/ztc" ["/usr/bin/ztc", "scan", "--", "--dump"]] ∧
      (shown (.program ["run", "scan", "--", "--dump"])).diagnostics ≠
        (shown (.script ⟨.scan, ["--", "--dump"]⟩)).diagnostics := by
  refine ⟨by decide, by rfl, by rfl, by decide⟩

end Session

end Handover

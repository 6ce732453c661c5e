import Handover.Proofs.Explanation
import Handover.Session

/-!
From the arguments of the program to an invocation. The subcommands that carry out and explain an
invocation read it from their arguments in the same way. A separator behind the name of the script
keeps all tokens behind it for the script.
-/

namespace Handover

theorem Command.name_of_ofName? {name : String} {c : Command} (named : ofName? name = some c) :
    c.name = name := by
  simpa using List.find?_some named

namespace CommandLine

variable {args before : List String} {i : Invocation} {lenient : Bool} {token : String}

/-- The arguments of a subcommand name an invocation, and nothing else is asked for. -/
def Names (args : List String) (i : Invocation) : Prop :=
  sort? true args = some { kept := i.command.name :: i.tokens }

theorem unique_of_names {other : Invocation} (names : Names args i) (others : Names args other) :
    i = other := by
  obtain ⟨command, tokens⟩ := i
  obtain ⟨otherCommand, otherTokens⟩ := other
  have same := Option.some.inj (names.symm.trans others)
  simp only [Sorted.mk.injEq, List.cons.injEq, true_and] at same
  obtain ⟨name, rfl⟩ := same
  have found := Command.ofName?_name command
  rw [name, Command.ofName?_name, Option.some.injEq] at found
  rw [found]

theorem isOption_of_hasHelpValue (valued : hasHelpValue token = true) : isOption token = true := by
  obtain ⟨rest, same⟩ := List.isPrefixOf_iff_prefix.mp valued
  rw [isOption, ← same]
  rfl

theorem sort?_separator (plain : ∀ token ∈ before, isOption token = false) (rest : List String) :
    sort? lenient (before ++ "--" :: rest) = some { kept := before ++ rest } := by
  induction before with
  | nil =>
    rw [List.nil_append, sort?]
    exact if_pos rfl
  | cons token others ih =>
    have value := plain token List.mem_cons_self
    have separator : token ≠ "--" := by
      rintro rfl
      exact absurd value (by decide)
    have help : token ≠ helpOption := by
      rintro rfl
      exact absurd value (by decide)
    have unvalued : hasHelpValue token = false := by
      refine Bool.eq_false_iff.mpr fun valued => ?_
      rw [isOption_of_hasHelpValue valued] at value
      cases value
    rw [List.cons_append, sort?, if_neg separator, if_neg help, if_neg (by simp [unvalued, value]),
      ih fun other member => plain other (List.mem_cons_of_mem token member)]
    rfl

theorem names_separated (c : Command) (tokens : List String) :
    Names (c.name :: "--" :: tokens) ⟨c, tokens⟩ := by
  have plain : ∀ token ∈ [c.name], isOption token = false := by cases c <;> decide
  exact sort?_separator plain tokens

theorem settle_of_names (names : Names args i) (request : Invocation → Request) :
    settle (sort? true args) (fun kept => (invocation? kept).map request) =
      .request (request i) := by
  rw [names]
  simp only [settle, invocation?, Command.ofName?_name]
  rfl

theorem ofArguments_of_names (names : Names args i) :
    ofArguments ("run" :: args) = .request (.run i) ∧
      ofArguments ("explain" :: args) = .request (.explain i) :=
  ⟨settle_of_names names .run, settle_of_names names .explain⟩

theorem names_or_settle (args : List String) :
    (∃ i, Names args i) ∨ ∃ line, (line = .help ∨ line = .misuse) ∧
      ∀ request : Invocation → Request,
        settle (sort? true args) (fun kept => (invocation? kept).map request) = line := by
  unfold Names
  cases sort? true args with
  | none => exact .inr ⟨_, .inr rfl, fun request => rfl⟩
  | some sorted =>
    obtain ⟨help, kept⟩ := sorted
    cases help with
    | true => exact .inr ⟨_, .inl rfl, fun request => rfl⟩
    | false =>
      cases kept with
      | nil => exact .inr ⟨_, .inr rfl, fun request => rfl⟩
      | cons name tokens =>
        cases named : Command.ofName? name with
        | none =>
          refine .inr ⟨.misuse, .inr rfl, fun request => ?_⟩
          simp only [settle, invocation?, named]
          rfl
        | some c =>
          rw [← Command.name_of_ofName? named]
          exact .inl ⟨⟨c, tokens⟩, rfl⟩

/-- Arguments that name no invocation are answered alike, without a look at the world. -/
theorem perform_of_settled {line : CommandLine} (alone : line = .help ∨ line = .misuse) :
    ∃ ending, (ending = .helped ∨ ending = .refused) ∧
      ∀ w handlers, line.perform w handlers = ⟨{}, .ok ending⟩ := by
  rcases alone with rfl | rfl
  · exact ⟨_, .inl rfl, fun w handlers => rfl⟩
  · exact ⟨_, .inr rfl, fun w handlers => rfl⟩

theorem perform_run (names : Names args i) (w : World) (handlers : Handlers) :
    (ofArguments ("run" :: args)).perform w handlers =
      ⟨(i.carryOut w handlers none).trace,
        (i.carryOut w handlers none).result.map Ending.status⟩ := by
  rw [(ofArguments_of_names names).1]
  exact Run.map_eq Ending.status _

theorem perform_explain (names : Names args i) {v : Verdict} (verdict : i.verdict = .ok v) :
    ∃ events, ∀ w handlers, (ofArguments ("explain" :: args)).perform w handlers =
      ⟨{ events, diagnostics := Diagnostics.ofVerdict v, output := i.shown v },
        .ok (.status (v.status?.getD 0))⟩ := by
  obtain ⟨events, explained⟩ := Invocation.explain_of_verdict verdict
  refine ⟨events, fun w handlers => ?_⟩
  rw [(ofArguments_of_names names).2]
  refine (Run.map_eq Ending.status i.explain).trans ?_
  rw [explained]
  rfl

/-- What one run shows of a verdict is what comes of it in another run. -/
structure Foretells (i : Invocation) (v : Verdict) (explained ran : Run Ending) : Prop where
  told : explained.trace.diagnostics = Diagnostics.ofVerdict v
  told_first : ∃ rest, (rest = "" ∨ Diagnostics.IsError rest) ∧
    ran.trace.diagnostics = Diagnostics.ofVerdict v ++ rest
  alone : ∀ status, v.status? = some status →
    explained.result = .ok (.status status) ∧ ran.result = .ok (.status status) ∧
      ran.trace.diagnostics = Diagnostics.ofVerdict v
  ended : ∀ d, v = .dispatch d → explained.result = .ok (.status 0)
  output : ∀ d, v = .dispatch d → explained.trace.output = Text.Json.object [
    ("legacy", i.command.script :: i.tokens),
    ("argv", "ztc" :: d.argv),
    ("warnings", d.warnings)] ++ "\n"
  started : ∀ d, v = .dispatch d → ∀ p ∈ ran.trace.started, p.argv.tail = d.argv
  warned : ∀ d, v = .dispatch d →
    Diagnostics.ofVerdict v = String.join (d.warnings.map (· ++ "\n"))

section Foretells

variable {v : Verdict} {d : Dispatch} {w : World} {handlers : Handlers} {status : Int}
  {ending : Ending}

theorem foretells_of_status (verdict : i.verdict = .ok v) (ends : v.status? = some status)
    (w : World) (handlers : Handlers) (events : List Event) :
    Foretells i v
      ⟨{ events, diagnostics := Diagnostics.ofVerdict v, output := i.shown v },
        .ok (.status (v.status?.getD 0))⟩
      ⟨(i.carryOut w handlers none).trace,
        (i.carryOut w handlers none).result.map Ending.status⟩ := by
  obtain ⟨others, -, carried⟩ := Invocation.endsAlone_of_status verdict ends
  have undispatched (d : Dispatch) : v ≠ .dispatch d := by
    rintro rfl
    cases ends
  rw [carried, ends]
  have same_end (other : Int) (same : v.status? = some other) : status = other := by
    simpa [ends] using same
  exact {
    told := rfl
    told_first := ⟨"", .inl rfl, String.append_empty.symm⟩
    alone := fun other same => by
      rw [same_end other same]
      exact ⟨rfl, rfl, rfl⟩
    ended := fun d same => absurd same (undispatched d)
    output := fun d same => absurd same (undispatched d)
    started := fun d same => absurd same (undispatched d)
    warned := fun d same => absurd same (undispatched d) }

theorem foretells_of_dispatch (verdict : i.verdict = .ok (.dispatch d))
    (returned : (i.carryOut w handlers none).result = .ok status) (events : List Event) :
    Foretells i (.dispatch d)
      ⟨{ events
         diagnostics := Diagnostics.ofVerdict (.dispatch d)
         output := i.shown (.dispatch d) },
        .ok (.status 0)⟩
      ⟨(i.carryOut w handlers none).trace,
        (i.carryOut w handlers none).result.map Ending.status⟩ where
  told := rfl
  told_first := Invocation.diagnostics_of_dispatch verdict returned
  alone other same := by cases same
  ended own same := rfl
  output own same := by
    cases same
    rfl
  started own same := by
    cases same
    exact Invocation.argv_of_dispatch verdict
  warned own same := by
    cases same
    exact Invocation.ofVerdict_of_dispatch verdict

/-- Explaining an invocation is the same in every world, and starts nothing. It shows what carrying
out the invocation comes to. -/
theorem explain_foretells_run
    (returned : ((ofArguments ("run" :: args)).perform w handlers).result = .ok ending) :
    ∃ explained : Run Ending,
      (∀ other others, (ofArguments ("explain" :: args)).perform other others = explained) ∧
      explained.trace.started = [] ∧
      ((explained = (ofArguments ("run" :: args)).perform w handlers ∧
          (ending = .helped ∨ ending = .refused)) ∨
        ∃ i v, Names args i ∧ i.verdict = .ok v ∧
          Foretells i v explained ((ofArguments ("run" :: args)).perform w handlers)) := by
  rcases names_or_settle args with ⟨i, names⟩ | ⟨line, alone, settled⟩
  · obtain ⟨v, verdict⟩ := i.exists_verdict
    obtain ⟨events, explained⟩ := perform_explain names verdict
    rw [perform_run names] at returned ⊢
    obtain ⟨status, carriedOut, rfl⟩ := map_eq_ok_iff.mp returned
    refine ⟨_, explained, rfl, .inr ⟨i, v, names, verdict, ?_⟩⟩
    cases v with
    | dispatch d => exact foretells_of_dispatch verdict carriedOut events
    | refuse failure => exact foretells_of_status verdict rfl w handlers events
    | help message => exact foretells_of_status verdict rfl w handlers events
  · -- both subcommands answer by themselves what names no invocation
    obtain ⟨own, kind, performed⟩ := perform_of_settled alone
    have run : ofArguments ("run" :: args) = line := settled .run
    have explain : ofArguments ("explain" :: args) = line := settled .explain
    rw [run, performed] at returned
    cases returned
    rw [run, explain, performed]
    exact ⟨_, performed, rfl, .inl ⟨rfl, kind⟩⟩

/-- A cluster, of which one letter has a warning, and a flag that is the value of another one. -/
theorem explain_foretells_run_scan :
    let run := (ofArguments ["run", "scan", "-nd", "--limit", "-d"]).perform
      Invocation.fragileTool {}
    run.result = .ok (.status 0) ∧
      run.trace.started = [.replaced "/usr/bin/ztc"
        ["/usr/bin/ztc", "scan", "--nopush", "--dry-run", "--limit", "-d"]] ∧
      ∃ explained : Run Ending,
        (∀ w handlers,
          (ofArguments ["explain", "scan", "-nd", "--limit", "-d"]).perform w handlers =
            explained) ∧
        explained.result = .ok (.status 0) ∧ explained.trace.started = [] ∧
        explained.trace.diagnostics =
          "WARNING: --dump is approximated as --dry-run (no disk dump).\n" ∧
        explained.trace.output =
          "\x7b\n  \"legacy\": [\n    \"scan.py\",\n    \"-nd\",\n    \"--limit\",\n" ++
          "    \"-d\"\n  ],\n" ++
          "  \"argv\": [\n    \"ztc\",\n    \"scan\",\n    \"--nopush\",\n" ++
          "    \"--dry-run\",\n    \"--limit\",\n    \"-d\"\n  ],\n" ++
          "  \"warnings\": [\n" ++
          "    \"WARNING: --dump is approximated as --dry-run (no disk dump).\"\n  ]\n\x7d\n" ∧
        ∀ p ∈ run.trace.started,
          p.argv.tail = ["scan", "--nopush", "--dry-run", "--limit", "-d"] := by
  have returned : ((ofArguments ["run", "scan", "-nd", "--limit", "-d"]).perform
      Invocation.fragileTool {}).result = .ok (.status 0) := by
    rfl
  have own : Names ["scan", "-nd", "--limit", "-d"] ⟨.scan, ["-nd", "--limit", "-d"]⟩ := by
    rfl
  obtain ⟨explained, same, nothing, ⟨-, other⟩ | ⟨i, v, names, verdict, foretells⟩⟩ :=
    explain_foretells_run returned
  · rcases other with other | other <;> cases other
  · obtain rfl := unique_of_names own names
    cases verdict
    exact ⟨returned, rfl, explained, same, foretells.ended _ rfl, nothing,
      foretells.told.trans (by decide +kernel), (foretells.output _ rfl).trans (by decide +kernel),
      foretells.started _ rfl⟩

end Foretells

end CommandLine

namespace Operation

variable {args : List String} {i : Invocation}

theorem perform_program (names : CommandLine.Names args i) (w : World) (handlers : Handlers) :
    perform (.program ("run" :: args)) w handlers = perform (.script i) w handlers := by
  refine (Run.map_eq Outcome.ended _).trans ?_
  rw [CommandLine.perform_run names]
  refine Eq.trans ?_ (Run.map_eq _ (i.carryOut w handlers none)).symm
  cases (i.carryOut w handlers none).result <;> rfl

theorem perform_program_explain (names : CommandLine.Names args i) {v : Verdict}
    (verdict : i.verdict = .ok v) (w : World) (handlers : Handlers) :
    ∃ events, perform (.program ("explain" :: args)) w handlers =
      ⟨{ events, diagnostics := Diagnostics.ofVerdict v, output := i.shown v },
        .ok (.ended (.status (v.status?.getD 0)))⟩ := by
  obtain ⟨events, explained⟩ := CommandLine.perform_explain names verdict
  refine ⟨events, (Run.map_eq Outcome.ended _).trans ?_⟩
  rw [explained]
  rfl

end Operation

namespace Session

/-- With a separator, the program stands for the script in every session, whatever the tokens are.
What it explains is the verdict on just these tokens. -/
theorem report_run_separated (s : Session) (c : Command) (tokens : List String) :
    s.report (.program ("run" :: c.name :: "--" :: tokens)) = s.report (.script ⟨c, tokens⟩) ∧
      s.after (.operate (.program ("run" :: c.name :: "--" :: tokens))) =
        s.after (.operate (.script ⟨c, tokens⟩)) ∧
      ∃ v, Invocation.verdict ⟨c, tokens⟩ = .ok v ∧
        ∃ events, (s.report (.program ("explain" :: c.name :: "--" :: tokens))).run =
          ⟨{ events
             diagnostics := Diagnostics.ofVerdict v
             output := Invocation.shown ⟨c, tokens⟩ v },
            .ok (.ended (.status (v.status?.getD 0)))⟩ := by
  have names := CommandLine.names_separated c tokens
  have run := Operation.perform_program names
  obtain ⟨v, verdict⟩ := Invocation.exists_verdict ⟨c, tokens⟩
  refine ⟨?_, ?_, v, verdict, ?_⟩
  · simp only [report, run]
  · simp only [after, run]
  · exact Operation.perform_program_explain names verdict s.world s.process.handlers

end Session

end Handover

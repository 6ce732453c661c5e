import Handover.Proofs.Delivery
import Handover.Session

/-!
Levels after a history of requests for them. A logger keeps the level that it was given last under
its own name, so a level for the program reaches only those of its loggers that have none.
-/

namespace Handover

namespace Logging

def Logger.children : List Logger := [.dispatch, .settings, .verdict]

/-- A request for a level, whether there is a level of that name or not. -/
inductive Demand where
  | configure (level : String)
  | logger (name level : String)

namespace Demand

def target : Demand → Option Logger
  | .configure _ => some .package
  | .logger name _ => Logger.ofName? name

def level : Demand → String
  | .configure level => level
  | .logger _ level => level

def operation : Demand → Operation
  | .configure level => .configure level
  | .logger name level => .logger name level

def gives? (demand : Demand) (logger : Logger) : Option Nat :=
  if demand.level ≠ "" ∧ demand.target = some logger then level? (Text.upper demand.level) else none

/-- Something is asked for, and it is no level. -/
def IsUnknown (demand : Demand) : Prop :=
  demand.level ≠ "" ∧ level? (Text.upper demand.level) = none

theorem perform_operation (demand : Demand) (w : World) (handlers : Handlers) :
    demand.operation.perform w handlers =
      setLevel demand.target demand.level >>= fun _ => pure Outcome.done := by
  cases demand <;> rfl

/-- A request for what is no level fails before it does anything. Any other leaves the level that it
gives, if it gives one. -/
theorem perform_cases (demand : Demand) (w : World) (handlers : Handlers) :
    (demand.IsUnknown ∧ (∀ logger, demand.gives? logger = none) ∧
      demand.operation.perform w handlers =
        ⟨{}, .error (.breakdown (.unknownLevel (Text.upper demand.level)))⟩) ∨
    (¬demand.IsUnknown ∧ (∀ logger, demand.gives? logger = none) ∧
      demand.operation.perform w handlers = ⟨{}, .ok .done⟩) ∨
    ∃ target number, ¬demand.IsUnknown ∧
      (∀ logger, demand.gives? logger = if target = logger then some number else none) ∧
      demand.operation.perform w handlers =
        ⟨{ events := [.setLevel target number] }, .ok .done⟩ := by
  rw [perform_operation]
  by_cases empty : demand.level = ""
  · have nothing : setLevel demand.target demand.level = pure () :=
      if_pos (String.isEmpty_iff.mpr empty)
    rw [nothing]
    exact .inr (.inl ⟨fun unknown => unknown.1 empty, fun _ => if_neg fun asked => asked.1 empty,
      rfl⟩)
  · unfold setLevel gives? IsUnknown
    rw [if_neg (mt String.isEmpty_iff.mp empty)]
    cases level? (Text.upper demand.level) with
    | none => exact .inl ⟨⟨empty, rfl⟩, fun _ => ite_self none, rfl⟩
    | some number =>
      refine .inr ?_
      cases demand.target with
      | none =>
        refine .inl ⟨fun unknown => ?_, fun _ => if_neg fun asked => ?_, rfl⟩
        · cases unknown.2
        · cases asked.2
      | some target =>
        refine .inr ⟨target, number, fun unknown => ?_, fun logger => ?_, rfl⟩
        · cases unknown.2
        · simp [empty]

end Demand

namespace Levels

theorem effective_of_child (l : Levels) {child : Logger} (below : child ∈ Logger.children) :
    l.effective child = if l.own child = 0 then l.effective .package else l.own child := by
  cases child with
  | root => simp [Logger.children] at below
  | package => simp [Logger.children] at below
  | dispatch => rfl
  | settings => rfl
  | verdict => rfl

theorem effective_of_package {l : Levels} {number : Nat} (given : l.own .package = number)
    (some_level : number ≠ 0) : l.effective .package = number := by
  change (if l.own .package = 0 then l.root else l.own .package) = number
  rw [given, if_neg some_level]

theorem effective_eq_iff {l : Levels} {child : Logger} {number : Nat}
    (program : l.effective .package = number) (below : child ∈ Logger.children) :
    l.effective child = number ↔ l.own child ∈ [0, number] := by
  rw [l.effective_of_child below, program, List.mem_cons, List.mem_singleton]
  split
  next unset => exact ⟨fun _ => .inl unset, fun _ => rfl⟩
  next own => exact ⟨.inr, fun either => either.resolve_left own⟩

theorem own_set (l : Levels) (target logger : Logger) (number : Nat) :
    (l.set target number).own logger = if target = logger then number else l.own logger := by
  split
  next same =>
    rw [← same]
    exact l.own_set_self target number
  next different => exact l.own_set_of_ne (Ne.symm different) number

end Levels

def lastGiven? (history : List Demand) (logger : Logger) : Option Nat :=
  (history.filterMap (·.gives? logger)).getLast?

theorem lastGiven?_cons (demand : Demand) (history : List Demand) (logger : Logger) (own : Nat) :
    (lastGiven? (demand :: history) logger).getD own =
      (lastGiven? history logger).getD ((demand.gives? logger).getD own) := by
  rw [lastGiven?, List.filterMap_cons]
  cases demand.gives? logger with
  | none => rfl
  | some number =>
    change ((number :: _).getLast?).getD own = _
    rw [List.getLast?_cons]
    rfl

theorem exists_level? {name : String}
    (named : name ∈ ["DEBUG", "INFO", "WARNING", "ERROR", "CRITICAL"]) :
    ∃ number, level? name = some number ∧ number ≠ 0 := by
  simp only [List.mem_cons, List.not_mem_nil, or_false] at named
  rcases named with rfl | rfl | rfl | rfl | rfl
  · exact ⟨10, rfl, by decide⟩
  · exact ⟨20, rfl, by decide⟩
  · exact ⟨30, rfl, by decide⟩
  · exact ⟨40, rfl, by decide⟩
  · exact ⟨50, rfl, by decide⟩

end Logging

namespace Session

open Logging

def afterDemands (s : Session) (history : List Demand) : Session :=
  s.afterAll (history.map fun demand => .operate demand.operation)

theorem own_after (s : Session) (demand : Demand) (logger : Logger) :
    (s.after (.operate demand.operation)).process.levels.own logger =
      (demand.gives? logger).getD (s.process.levels.own logger) := by
  simp only [after]
  rcases demand.perform_cases s.world s.process.handlers with
    ⟨-, nothing, performed⟩ | ⟨-, nothing, performed⟩ | ⟨target, number, -, given, performed⟩
  · rw [performed, nothing]
    rfl
  · rw [performed, nothing]
    rfl
  · rw [performed, given]
    refine (Levels.own_set s.process.levels target logger number).trans ?_
    split <;> rfl

theorem own_afterDemands (s : Session) (history : List Demand) (logger : Logger) :
    (s.afterDemands history).process.levels.own logger =
      (lastGiven? history logger).getD (s.process.levels.own logger) := by
  induction history generalizing s with
  | nil => rfl
  | cons demand rest ih =>
    rw [lastGiven?_cons, ← s.own_after demand logger]
    exact ih (s.after (.operate demand.operation))

theorem isUnknown_of_failed {s : Session} {demand : Demand} {trouble : Trouble}
    (failed : (s.report demand.operation).run.result = .error trouble) : demand.IsUnknown := by
  simp only [report] at failed
  rcases demand.perform_cases s.world s.process.handlers with
    ⟨unknown, -⟩ | ⟨-, -, performed⟩ | ⟨target, number, -, -, performed⟩
  · exact unknown
  · rw [performed] at failed
    cases failed
  · rw [performed] at failed
    cases failed

theorem after_of_isUnknown (s : Session) {demand : Demand} (unknown : demand.IsUnknown) :
    (s.report demand.operation).run.result =
        .error (.breakdown (.unknownLevel (Text.upper demand.level))) ∧
      s.after (.operate demand.operation) = s := by
  simp only [report, after]
  rcases demand.perform_cases s.world s.process.handlers with
    ⟨-, -, performed⟩ | ⟨known, -⟩ | ⟨target, number, known, -⟩
  · rw [performed]
    exact ⟨rfl, rfl⟩
  · exact absurd unknown known
  · exact absurd unknown known

theorem own_of_configure (s : Session) {level : String} {number : Nat} (some_text : level ≠ "")
    (known : level? (Text.upper level) = some number) (logger : Logger) :
    (s.after (.operate (.configure level))).process.levels.own logger =
      if logger = .package then number else s.process.levels.own logger := by
  refine (s.own_after (.configure level) logger).trans ?_
  by_cases program : logger = .package
  · have asked : (Demand.configure level).level ≠ "" ∧
        (Demand.configure level).target = some logger := ⟨some_text, congrArg some program.symm⟩
    rw [Demand.gives?, if_pos asked, if_pos program]
    change (level? (Text.upper level)).getD _ = number
    rw [known, Option.getD_some]
  · have other : ¬((Demand.configure level).level ≠ "" ∧
        (Demand.configure level).target = some logger) := by
      intro asked
      exact program (Option.some.inj asked.2).symm
    rw [Demand.gives?, if_neg other, if_neg program]
    rfl

/-- After any history of requests, a level for the program becomes the level of its own logger, and
of each logger below that one unless it was given another level last under its own name. A request
fails exactly if it asks for what is no level, and then the session is as it was. -/
theorem effective_of_configure (s : Session) (history : List Demand) {level : String}
    (named : Text.upper level ∈ ["DEBUG", "INFO", "WARNING", "ERROR", "CRITICAL"]) :
    ∃ levels number,
      levels = ((s.afterDemands history).after (.operate (.configure level))).process.levels ∧
      level? (Text.upper level) = some number ∧
      levels.effective .package = number ∧
      (∀ child ∈ Logger.children, levels.effective child =
        match (lastGiven? history child).getD (s.process.levels.own child) with
        | 0 => number
        | own => own) ∧
      ((∀ logger ∈ Logger.packaged, levels.effective logger = number) ↔
        ∀ child ∈ Logger.children,
          (lastGiven? history child).getD (s.process.levels.own child) ∈ [0, number]) ∧
      ∀ demand : Demand,
        ((∃ trouble, ((s.afterDemands history).report demand.operation).run.result =
          .error trouble) ↔ demand.IsUnknown) ∧
        (demand.IsUnknown →
          (s.afterDemands history).after (.operate demand.operation) = s.afterDemands history) := by
  obtain ⟨number, known, positive⟩ := exists_level? named
  have some_text : level ≠ "" := by
    rintro rfl
    revert named
    decide
  have own := (s.afterDemands history).own_of_configure some_text known
  obtain ⟨levels, configured⟩ : ∃ levels, levels =
    ((s.afterDemands history).after (.operate (.configure level))).process.levels := ⟨_, rfl⟩
  rw [← configured] at own
  have program : levels.effective .package = number :=
    Levels.effective_of_package (own .package) positive
  have kept : ∀ child ∈ Logger.children,
      levels.own child = (lastGiven? history child).getD (s.process.levels.own child) := by
    intro child member
    have other : child ≠ .package := by
      rintro rfl
      revert member
      decide
    rw [own, if_neg other, own_afterDemands]
  refine ⟨levels, number, configured, known, program, ?_, ?_, fun demand => ⟨⟨?_, ?_⟩, ?_⟩⟩
  · intro child member
    rw [levels.effective_of_child member, kept child member, program]
    cases (lastGiven? history child).getD (s.process.levels.own child) <;> rfl
  · constructor
    · intro all child member
      rw [← kept child member]
      exact (Levels.effective_eq_iff program member).mp (all child (List.mem_cons_of_mem _ member))
    · intro alike logger member
      rcases List.mem_cons.mp member with rfl | below
      · exact program
      · refine (Levels.effective_eq_iff program below).mpr ?_
        rw [kept logger below]
        exact alike logger below
  · rintro ⟨trouble, failed⟩
    exact isUnknown_of_failed failed
  · intro unknown
    exact ⟨_, ((s.afterDemands history).after_of_isUnknown unknown).1⟩
  · intro unknown
    exact ((s.afterDemands history).after_of_isUnknown unknown).2

def demanded : List Demand := [
  .logger "ztcshim.dispatch" "debug", .logger "ztcshim.settings" "loud", .configure "info"]

/-- The level for the program does not reach the logger that was given one of its own. -/
theorem effective_of_configure_demanded :
    ∃ levels,
      levels = ((afterDemands {} demanded).after (.operate (.configure "Error"))).process.levels ∧
      levels.effective .package = 40 ∧ levels.effective .settings = 40 ∧
      levels.effective .verdict = 40 ∧ levels.effective .dispatch = 10 := by
  obtain ⟨levels, number, after, known, program, below, -⟩ :=
    effective_of_configure {} demanded (by decide : Text.upper "Error" ∈ _)
  have forty : number = 40 := Option.some.inj (known.symm.trans (by decide))
  subst forty
  exact ⟨levels, after, program, below .settings (by decide), below .verdict (by decide),
    below .dispatch (by decide)⟩

end Session

end Handover

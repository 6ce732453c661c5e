/-! Optional texts, of which the empty one counts as not given. -/

namespace Handover.Text

def nonempty? : Option String → Option String
  | some s => if s.isEmpty then none else some s
  | none => none

theorem nonempty?_eq_some_iff {given : Option String} {s : String} :
    nonempty? given = some s ↔ given = some s ∧ s ≠ "" := by
  cases given with
  | none => simp [nonempty?]
  | some t =>
    by_cases empty : t = ""
    · simp [nonempty?, empty]
    · simp only [nonempty?, String.isEmpty_iff, empty, if_false, Option.some.injEq]
      exact ⟨fun same => ⟨same, same ▸ empty⟩, fun both => both.1⟩

end Handover.Text

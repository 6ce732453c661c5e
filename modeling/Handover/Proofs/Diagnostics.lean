import Handover.Diagnostics

/-!
What the caller reads. The colour of a text is gone before the text begins, and a text that
announces an error still does so where it is read.
-/

namespace Handover

namespace Text

theorem dropSequences_append {start : List Char} (clear : '\x1b' ∉ start) (rest : List Char) :
    dropSequences 0 (start ++ rest) = start ++ dropSequences 0 rest := by
  induction start with
  | nil => rfl
  | cons c others ih =>
    have different : c ≠ '\x1b' := fun same => clear (same ▸ List.mem_cons_self)
    have later := ih fun member => clear (List.mem_cons_of_mem _ member)
    simp only [List.cons_append, dropSequences, different, if_false, later]

theorem toList_withoutSequences_painted (colour : Colour) (s : String) :
    (withoutSequences (painted colour s)).toList =
      dropSequences 0 (s.toList ++ "\x1b[0m".toList) := by
  rw [withoutSequences, String.toList_ofList, painted, String.toList_append, String.toList_append,
    List.append_assoc]
  cases colour <;> rfl

end Text

namespace Diagnostics

theorem written_of_clear {text : String} (clear : '\x1b' ∉ text.toList) (colour : Text.Colour) :
    written colour text = text ++ "\n" := by
  refine congrArg (· ++ "\n") (String.toList_inj.mp ?_)
  rw [Text.toList_withoutSequences_painted, Text.dropSequences_append clear]
  exact List.append_nil text.toList

theorem ofVerdict_of_clear {d : Dispatch}
    (clear : ∀ warning ∈ d.warnings, '\x1b' ∉ warning.toList) :
    ofVerdict (.dispatch d) = String.join (d.warnings.map (· ++ "\n")) :=
  congrArg String.join (List.map_congr_left fun warning member =>
    written_of_clear (clear warning member) .yellow)

/-- The text announces an error. -/
def IsError (text : String) : Prop := "ERROR: ".toList <+: text.toList

instance (text : String) : Decidable (IsError text) := inferInstanceAs (Decidable (_ <+: _))

theorem isError_append {start : String} (announced : IsError start) (rest : String) :
    IsError (start ++ rest) := by
  unfold IsError
  rw [String.toList_append]
  exact announced.trans (List.prefix_append _ _)

theorem isError_refusal {text : String} (announced : IsError text) : IsError (refusal text) := by
  obtain ⟨rest, same⟩ := announced
  refine isError_append ?_ "\n"
  unfold IsError
  rw [Text.toList_withoutSequences_painted, ← same, List.append_assoc,
    Text.dropSequences_append (by decide)]
  exact List.prefix_append _ _

end Diagnostics

end Handover

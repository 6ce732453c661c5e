import Handover.Text.Blank
import Handover.Text.Case
import Mathlib.Data.List.TakeWhile

/-!
Blanks and texts that have nothing else. Stripping leaves nothing of such a text, and of no other,
and it has no letters, so lower case leaves it as it is.
-/

namespace Handover.Text

variable {c : Char} {cs : List Char} {s : String}

theorem trimBlanks_eq_nil_iff : trimBlanks cs = [] ↔ cs.all isBlank = true := by
  rw [trimBlanks, List.reverse_eq_nil_iff, List.dropWhile_eq_nil_iff, List.all_eq_true]
  constructor
  · intro blank
    have nothing : cs.dropWhile isBlank = [] := by
      refine Decidable.byContradiction fun some_char => ?_
      -- what is left would start with a character that is not blank
      have first := List.head_dropWhile_not isBlank some_char
      rw [blank _ (List.mem_reverse.mpr (List.head_mem some_char))] at first
      cases first
    exact List.dropWhile_eq_nil_iff.mp nothing
  · intro blank c member
    exact blank c ((List.dropWhile_sublist _).subset (List.mem_reverse.mp member))

theorem strip_eq_empty_iff : strip s = "" ↔ isAllBlank s = true := by
  rw [isAllBlank, ← trimBlanks_eq_nil_iff, strip]
  constructor
  · intro empty
    simpa using congrArg String.toList empty
  · intro nothing
    rw [nothing, String.ofList_nil]

def blankCodes : List Nat :=
  List.range' 0x09 5 ++ List.range' 0x1c 5 ++ [0x85, 0xa0, 0x1680] ++ List.range' 0x2000 11 ++
    [0x2028, 0x2029, 0x202f, 0x205f, 0x3000]

theorem mem_blankCodes (blank : isBlank c = true) : c.toNat ∈ blankCodes := by
  simp only [isBlank, Bool.or_eq_true, Bool.and_eq_true, decide_eq_true_eq, beq_iff_eq] at blank
  simp only [blankCodes, List.mem_append, List.mem_range'_1, List.mem_cons, List.not_mem_nil,
    or_false]
  omega

theorem lowerChar_of_isBlank (blank : isBlank c = true) : lowerChar c = [c] ∧ c ≠ 'Σ' := by
  have caseless : ∀ n ∈ blankCodes,
      lowerChar (Char.ofNat n) = [Char.ofNat n] ∧ Char.ofNat n ≠ 'Σ' := by decide
  simpa using caseless c.toNat (mem_blankCodes blank)

theorem lowerAfter_of_blank (blank : ∀ c ∈ cs, isBlank c = true) (before : List Char) :
    lowerAfter before cs = cs := by
  induction cs generalizing before with
  | nil => rfl
  | cons c rest ih =>
    obtain ⟨same, other⟩ := lowerChar_of_isBlank (blank c List.mem_cons_self)
    have others := ih (fun x member => blank x (List.mem_cons_of_mem c member)) (c :: before)
    rw [lowerAfter, if_neg other, same, others]
    rfl

theorem lower_of_isAllBlank (blank : isAllBlank s = true) : lower s = s := by
  rw [isAllBlank, List.all_eq_true] at blank
  rw [lower, lowerAfter_of_blank blank, String.ofList_toList]

end Handover.Text

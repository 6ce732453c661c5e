import Handover.Text.Terminal

/-!
Control sequences as words, and texts that have lost theirs. Sequences are met from left to right,
and a character stays only where none starts. A sequence has an escape character in front and
nowhere else, so what stands before an escape character loses its sequences by itself.
-/

namespace Handover.Text

/-- An escape character, a square bracket, parameters and a letter. -/
inductive IsSequence : List Char → Prop where
  | mk {parameters : List Char} {letter : Char} (each : ∀ c ∈ parameters, isParameter c = true)
    (last : letter.isAlpha = true) : IsSequence ('\x1b' :: '[' :: (parameters ++ [letter]))

/-- What is left of a text when its control sequences are deleted in one pass, each of them where it
is met from the left. -/
inductive Without : List Char → List Char → Prop where
  | nil : Without [] []
  | sequence {found rest kept : List Char} (matched : IsSequence found)
    (later : Without rest kept) : Without (found ++ rest) kept
  | char {c : Char} {rest kept : List Char}
    (unmatched : ∀ found, IsSequence found → ¬found <+: c :: rest) (later : Without rest kept) :
    Without (c :: rest) (c :: kept)

variable {c letter : Char} {cs rest parameters found kept other : List Char} {length : Nat}

theorem isParameter_of_isAlpha (alpha : c.isAlpha = true) : isParameter c = false := by
  have letter : (65 ≤ c.toNat ∧ c.toNat ≤ 90) ∨ 97 ≤ c.toNat ∧ c.toNat ≤ 122 := by
    rcases (Bool.or_eq_true c.isUpper c.isLower).mp alpha with upper | lower
    · exact .inl (of_decide_eq_true upper)
    · have bounds := (Bool.and_eq_true _ _).mp lower
      exact .inr (bounds.imp of_decide_eq_true of_decide_eq_true)
  have digit : c.isDigit = false := by
    rw [← Bool.not_eq_true, Char.isDigit_iff_toNat]
    intro digit
    change 48 ≤ c.toNat ∧ c.toNat ≤ 57 at digit
    omega
  have semicolon : c ≠ ';' := by
    rintro rfl
    revert alpha
    decide
  have mark : c ≠ '?' := by
    rintro rfl
    revert alpha
    decide
  simp only [isParameter, digit, beq_eq_false_iff_ne.mpr semicolon, beq_eq_false_iff_ne.mpr mark,
    Bool.or_self]

theorem sequenceLength?_of_parameters (each : ∀ c ∈ parameters, isParameter c = true)
    (last : letter.isAlpha = true) (rest : List Char) :
    sequenceLength? ('[' :: (parameters ++ letter :: rest)) = some (parameters.length + 2) := by
  have stop := isParameter_of_isAlpha last
  simp only [sequenceLength?, List.dropWhile_append_of_pos each, List.takeWhile_append_of_pos each]
  rw [List.dropWhile_cons_of_neg (by simp [stop]), List.takeWhile_cons_of_neg (by simp [stop])]
  simp only [last, if_true, List.append_nil]

theorem exists_of_sequenceLength? (counted : sequenceLength? rest = some length) :
    ∃ found later, '\x1b' :: rest = found ++ later ∧ IsSequence found ∧
      found.length = length + 1 := by
  unfold sequenceLength? at counted
  split at counted
  next others =>
    split at counted
    next letter later behind =>
      split at counted
      next last =>
        cases counted
        have whole : others = others.takeWhile isParameter ++ letter :: later := by
          rw [← behind, List.takeWhile_append_dropWhile]
        refine ⟨'\x1b' :: '[' :: (others.takeWhile isParameter ++ [letter]), later, ?_,
          .mk (fun c member => List.all_eq_true.mp List.all_takeWhile c member) last, by simp⟩
        simp only [List.cons_append, List.append_assoc, List.nil_append]
        exact congrArg ('\x1b' :: '[' :: ·) whole
      next => cases counted
    next => cases counted
  next => cases counted

theorem dropSequences_pending (dropped rest : List Char) :
    dropSequences dropped.length (dropped ++ rest) = dropSequences 0 rest := by
  induction dropped with
  | nil => rfl
  | cons c others ih => exact ih

theorem dropSequences_of_isSequence (matched : IsSequence found) (rest : List Char) :
    dropSequences 0 (found ++ rest) = dropSequences 0 rest := by
  obtain @⟨parameters, letter, each, last⟩ := matched
  have counted := sequenceLength?_of_parameters each last rest
  have pending := dropSequences_pending ('[' :: (parameters ++ [letter])) rest
  simp only [List.length_cons, List.length_append, List.length_nil, List.cons_append,
    List.append_assoc, List.nil_append] at pending
  simp only [List.cons_append, List.append_assoc, List.nil_append]
  rw [dropSequences, if_pos rfl, counted]
  exact pending

theorem dropSequences_of_unmatched
    (unmatched : ∀ found, IsSequence found → ¬found <+: c :: rest) :
    dropSequences 0 (c :: rest) = c :: dropSequences 0 rest := by
  rw [dropSequences]
  split
  next length counted =>
    split at counted
    next escape =>
      obtain ⟨found, later, same, matched, -⟩ := exists_of_sequenceLength? counted
      rw [escape] at unmatched
      exact absurd ⟨later, same.symm⟩ (unmatched found matched)
    next => cases counted
  next => rfl

theorem eq_of_without (without : Without cs kept) : dropSequences 0 cs = kept := by
  induction without with
  | nil => rfl
  | sequence matched later ih => rw [dropSequences_of_isSequence matched, ih]
  | char unmatched later ih => rw [dropSequences_of_unmatched unmatched, ih]

theorem IsSequence.ne_nil (matched : IsSequence found) : found ≠ [] := by
  cases matched
  exact List.cons_ne_nil _ _

theorem without_dropSequences : (cs : List Char) → Without cs (dropSequences 0 cs)
  | [] => .nil
  | c :: rest => by
    by_cases matched : ∃ found, IsSequence found ∧ found <+: c :: rest
    · obtain ⟨found, sequence, later, same⟩ := matched
      have shorter : later.length < (c :: rest).length := by
        have some_char := List.length_pos_iff.mpr sequence.ne_nil
        rw [← same, List.length_append]
        omega
      rw [← same, dropSequences_of_isSequence sequence]
      exact .sequence sequence (without_dropSequences later)
    · have unmatched : ∀ found, IsSequence found → ¬found <+: c :: rest :=
        fun found sequence start => matched ⟨found, sequence, start⟩
      rw [dropSequences_of_unmatched unmatched]
      exact .char unmatched (without_dropSequences rest)
termination_by cs => cs.length
decreasing_by
  · exact shorter
  · exact Nat.lt_succ_self _

theorem without_iff : Without cs kept ↔ dropSequences 0 cs = kept :=
  ⟨eq_of_without, fun same => same ▸ without_dropSequences cs⟩

theorem IsSequence.escape_not_mem_tail (matched : IsSequence found) : '\x1b' ∉ found.tail := by
  obtain @⟨parameters, letter, each, last⟩ := matched
  simp only [List.tail_cons, List.mem_cons, List.mem_append, List.not_mem_nil, or_false, not_or]
  refine ⟨by decide, fun member => ?_, ?_⟩
  · exact absurd (each _ member) (by decide)
  · rintro rfl
    exact absurd last (by decide)

theorem IsSequence.isPrefix_of_escape (matched : IsSequence found)
    (start : found <+: c :: (cs ++ '\x1b' :: rest)) : found <+: c :: cs := by
  obtain ⟨later, same⟩ := start
  rw [← List.cons_append] at same
  rcases List.append_eq_append_iff.mp same with ⟨others, whole, -⟩ | ⟨beyond, whole, tail⟩
  · exact ⟨others, whole.symm⟩
  · cases beyond with
    | nil => exact ⟨[], by rw [whole, List.append_nil, List.append_nil]⟩
    | cons x others =>
      have escape : x = '\x1b' := (List.cons.inj tail).1.symm
      refine absurd ?_ matched.escape_not_mem_tail
      simp [whole, escape]

/-- What stands before an escape character and what it begins lose their sequences separately. -/
theorem Without.append_escape (head : Without cs kept) (tail : Without ('\x1b' :: rest) other) :
    Without (cs ++ '\x1b' :: rest) (kept ++ other) := by
  induction head with
  | nil => exact tail
  | sequence matched later ih =>
    rw [List.append_assoc]
    exact .sequence matched ih
  | char unmatched later ih =>
    exact .char (fun found matched start =>
      unmatched found matched (matched.isPrefix_of_escape start)) ih

theorem dropSequences_append_escape (cs rest : List Char) :
    dropSequences 0 (cs ++ '\x1b' :: rest) =
      dropSequences 0 cs ++ dropSequences 0 ('\x1b' :: rest) :=
  eq_of_without ((without_dropSequences cs).append_escape (without_dropSequences _))

end Handover.Text

import Handover.Proofs.Respelling.Walk

/-!
Clusters whose letters are renamed. Every letter is renamed by itself, up to the first that takes a
value, and a cluster is never refused.
-/

namespace Handover

namespace FlagTable

variable {table : FlagTable} {before letters attached : List Char} {c : Char} {flag : Flag}

theorem valued?_append (plain : ∀ x ∈ before, table.takesValue x = false) (letters : List Char) :
    table.valued? (before ++ letters) = table.valued? letters := by
  induction before with
  | nil => rfl
  | cons x rest ih =>
    rw [List.cons_append, valued?_cons_of_plain (plain x List.mem_cons_self)]
    exact ih fun y member => plain y (List.mem_cons_of_mem x member)

theorem valued?_of_plain (plain : ∀ x ∈ letters, table.takesValue x = false) :
    table.valued? letters = none := by
  rw [← List.append_nil letters, valued?_append plain]
  rfl

theorem plain_or_valued (table : FlagTable) (letters : List Char) :
    (∀ x ∈ letters, table.takesValue x = false) ∨
      ∃ before c attached flag, letters = before ++ c :: attached ∧
        (∀ x ∈ before, table.takesValue x = false) ∧ table.letter? c = some flag ∧
        flag.takesValue = true := by
  induction letters with
  | nil => exact .inl (by simp)
  | cons x rest ih =>
    cases takes : table.takesValue x with
    | true =>
      obtain ⟨flag, entry, flagTakes⟩ := exists_flag_of_takesValue takes
      exact .inr ⟨[], x, rest, flag, rfl, by simp, entry, flagTakes⟩
    | false =>
      rcases ih with plain | ⟨before, c, attached, flag, split, plain, entry, flagTakes⟩
      · exact .inl (List.forall_mem_cons.mpr ⟨takes, plain⟩)
      · exact .inr ⟨x :: before, c, attached, flag, by rw [split]; rfl,
          List.forall_mem_cons.mpr ⟨takes, plain⟩, entry, flagTakes⟩

theorem plainLetters_append (plain : ∀ x ∈ before, table.takesValue x = false)
    (letters : List Char) :
    table.plainLetters (before ++ letters) = before ++ table.plainLetters letters := by
  refine List.takeWhile_append_of_pos fun x member => ?_
  rw [plain x member]
  rfl

theorem plainLetters_of_plain (plain : ∀ x ∈ letters, table.takesValue x = false) :
    table.plainLetters letters = letters := by
  have whole : table.plainLetters (letters ++ []) = letters ++ [] := plainLetters_append plain []
  rwa [List.append_nil] at whole

theorem last_valued (plain : ∀ x ∈ before, table.takesValue x = false)
    (entry : table.letter? c = some flag) (takes : flag.takesValue = true)
    (attached : List Char) :
    table.plainLetters (before ++ c :: attached) = before ∧
      table.valued? (before ++ c :: attached) = some (flag, attached) := by
  have valueLetter : table.takesValue c = true := by rw [takesValue_eq entry, takes]
  rw [plainLetters_append plain, plainLetters_cons_of_valued valueLetter, List.append_nil,
    valued?_append plain, valued?_cons_of_valued entry valueLetter]
  exact ⟨rfl, rfl⟩

theorem exists_of_valued? (valued : table.valued? letters = some (flag, attached)) :
    ∃ before c, letters = before ++ c :: attached ∧ (∀ x ∈ before, table.takesValue x = false) ∧
      table.letter? c = some flag ∧ flag.takesValue = true := by
  rcases table.plain_or_valued letters with plain | ⟨before, c, rest, own, rfl, plain, entry, takes⟩
  · rw [valued?_of_plain plain] at valued
    cases valued
  · rw [(last_valued plain entry takes rest).2] at valued
    cases valued
    exact ⟨before, c, rfl, plain, entry, takes⟩

theorem splitAtValue?_of_valued (plain : ∀ x ∈ before, table.takesValue x = false)
    (entry : table.letter? c = some flag) (takes : flag.takesValue = true) :
    table.splitAtValue? (before ++ c :: attached) = some (before ++ [c], flag, attached) := by
  induction before with
  | nil =>
    rw [List.nil_append, splitAtValue?, entry, Option.filter_some_pos takes]
    rfl
  | cons x rest ih =>
    have first := plain x List.mem_cons_self
    have skipped : (table.letter? x).filter (·.takesValue) = none := by
      simpa [takesValue, Option.any_eq_false] using first
    rw [List.cons_append, splitAtValue?, skipped,
      ih fun y member => plain y (List.mem_cons_of_mem x member)]
    rfl

theorem splitAtValue?_of_plain (plain : ∀ x ∈ letters, table.takesValue x = false) :
    table.splitAtValue? letters = none := by
  rw [splitAtValue?_eq, valued?_of_plain plain]
  rfl

end FlagTable

/-- The reading of letters with these words. It awaits a value if a flag at their end does. -/
def Reading.ending (block : Block) : Option (Flag × List Char) → Reading
  | some (flag, []) => .awaiting block flag
  | _ => .whole block

namespace Dialect

variable {d : Dialect} {before letters attached : List Char} {c : Char} {flag : Flag}

def renamed (d : Dialect) (c : Char) : List Char :=
  ((d.renames.lookup (String.ofList [c])).getD (String.ofList [c])).toList

def renamedCluster (d : Dialect) (letters : List Char) : String :=
  String.ofList ('-' :: letters.flatMap d.renamed)

theorem head?_ne_dash_of_alpha (alpha : letters.all Char.isAlpha = true) :
    letters.head? ≠ some '-' := by
  intro dash
  have member : '-' ∈ letters := List.mem_of_head? dash
  exact absurd (List.all_eq_true.mp alpha '-' member) (by decide)

theorem alpha_head (alpha : (before ++ c :: attached).all Char.isAlpha = true) :
    (before ++ [c]).all Char.isAlpha = true := by
  simp only [List.all_append, List.all_cons, Bool.and_eq_true] at alpha
  simp [alpha]

theorem shape_of_alpha (some_letter : letters ≠ []) (alpha : letters.all Char.isAlpha = true) :
    Token.shape (String.ofList ('-' :: letters)) = .short letters :=
  Token.shape_ofList some_letter (head?_ne_dash_of_alpha alpha)

theorem isCluster_of_alpha (some_letter : letters ≠ []) (alpha : letters.all Char.isAlpha = true) :
    Token.isCluster (String.ofList ('-' :: letters)) = true := by
  rw [Token.isCluster, shape_of_alpha some_letter alpha]
  exact alpha

theorem renameCluster_of_alpha (some_letter : letters ≠ [])
    (alpha : letters.all Char.isAlpha = true) :
    renameCluster d.renames (String.ofList ('-' :: letters)) = .ok (d.renamedCluster letters) := by
  rw [renameCluster, if_pos (isCluster_of_alpha some_letter alpha), String.toList_ofList]
  rfl

theorem readRenamed_of_plain (some_letter : letters ≠ [])
    (alpha : letters.all Char.isAlpha = true)
    (plain : ∀ x ∈ letters, d.flags.takesValue x = false) :
    d.readRenamed letters = .ok (.whole (.verbatim (d.renamedCluster letters))) := by
  rw [readRenamed, FlagTable.splitAtValue?_of_plain plain]
  simp only [renameCluster_of_alpha some_letter alpha]
  rfl

theorem readRenamed_of_valued (alpha : (before ++ c :: attached).all Char.isAlpha = true)
    (plain : ∀ x ∈ before, d.flags.takesValue x = false)
    (entry : d.flags.letter? c = some flag) (takes : flag.takesValue = true) :
    d.readRenamed (before ++ c :: attached) =
      .ok (if attached.isEmpty then .awaiting (.verbatim (d.renamedCluster (before ++ [c]))) flag
        else .whole (.verbatim (d.renamedCluster (before ++ [c])) ++
          .verbatim (String.ofList attached))) := by
  have some_letter : before ++ [c] ≠ [] := by simp
  rw [readRenamed, FlagTable.splitAtValue?_of_valued plain entry takes]
  simp only [renameCluster_of_alpha some_letter (alpha_head alpha)]
  rfl

theorem exists_readRenamed (some_letter : letters ≠ []) (alpha : letters.all Char.isAlpha = true) :
    ∃ block, d.readRenamed letters = .ok (.ending block (d.flags.valued? letters)) := by
  rcases d.flags.plain_or_valued letters with
    plain | ⟨before, c, attached, flag, rfl, plain, entry, takes⟩
  · rw [FlagTable.valued?_of_plain plain]
    exact ⟨_, readRenamed_of_plain some_letter alpha plain⟩
  · rw [(FlagTable.last_valued plain entry takes attached).2]
    have read := readRenamed_of_valued alpha plain entry takes
    cases attached with
    | nil => exact ⟨_, read⟩
    | cons x rest => exact ⟨_, read⟩

end Dialect

end Handover

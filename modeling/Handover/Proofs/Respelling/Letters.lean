import Handover.Respelling

/-!
Short tokens, letter by letter. Up to the first letter that takes a value, the letters of a short
token are flags, and whatever is attached behind that letter is its value. Both ways to read a
short token, renaming it and spreading it out, stop at the same letter.
-/

namespace Handover.FlagTable

variable {table : FlagTable} {letters : List Char} {c : Char} {flag : Flag}

def knows (table : FlagTable) (letter : Char) : Bool := (table.letter? letter).isSome

def takesValue (table : FlagTable) (letter : Char) : Bool :=
  (table.letter? letter).any (·.takesValue)

def plainLetters (table : FlagTable) (letters : List Char) : List Char :=
  letters.takeWhile fun c => !table.takesValue c

def valuedLetters (table : FlagTable) (letters : List Char) : List Char :=
  letters.dropWhile fun c => !table.takesValue c

def valued? (table : FlagTable) (letters : List Char) : Option (Flag × List Char) :=
  match table.valuedLetters letters with
  | [] => none
  | c :: attached => (table.letter? c).map fun flag => (flag, attached)

theorem plainLetters_cons_of_valued (takes : table.takesValue c = true) :
    table.plainLetters (c :: letters) = [] := by
  simp [plainLetters, takes]

theorem valuedLetters_cons_of_valued (takes : table.takesValue c = true) :
    table.valuedLetters (c :: letters) = c :: letters := by
  simp [valuedLetters, takes]

theorem plainLetters_cons_of_plain (plain : table.takesValue c = false) :
    table.plainLetters (c :: letters) = c :: table.plainLetters letters := by
  simp [plainLetters, plain]

theorem valuedLetters_cons_of_plain (plain : table.takesValue c = false) :
    table.valuedLetters (c :: letters) = table.valuedLetters letters := by
  simp [valuedLetters, plain]

theorem takesValue_eq (entry : table.letter? c = some flag) :
    table.takesValue c = flag.takesValue := by
  simp [takesValue, entry]

theorem exists_flag_of_takesValue (takes : table.takesValue c = true) :
    ∃ flag, table.letter? c = some flag ∧ flag.takesValue = true := by
  unfold takesValue at takes
  cases entry : table.letter? c with
  | none => simp [entry] at takes
  | some flag => exact ⟨flag, rfl, by simpa [entry] using takes⟩

theorem valued?_cons_of_valued (entry : table.letter? c = some flag)
    (takes : table.takesValue c = true) : table.valued? (c :: letters) = some (flag, letters) := by
  simp [valued?, valuedLetters_cons_of_valued takes, entry]

theorem valued?_cons_of_plain (plain : table.takesValue c = false) :
    table.valued? (c :: letters) = table.valued? letters := by
  simp [valued?, valuedLetters_cons_of_plain plain]

theorem splitAtValue?_eq (table : FlagTable) (letters : List Char) :
    table.splitAtValue? letters = (table.valued? letters).map fun (flag, attached) =>
      (table.plainLetters letters ++ (table.valuedLetters letters).take 1, flag, attached) := by
  induction letters with
  | nil => rfl
  | cons c rest ih =>
    cases takes : table.takesValue c with
    | true =>
      obtain ⟨flag, entry, valued⟩ := exists_flag_of_takesValue takes
      rw [splitAtValue?, entry, Option.filter_some_pos valued, valued?_cons_of_valued entry takes,
        plainLetters_cons_of_valued takes, valuedLetters_cons_of_valued takes]
      rfl
    | false =>
      have skipped : (table.letter? c).filter (·.takesValue) = none := by
        simpa [takesValue, Option.any_eq_false] using takes
      rw [splitAtValue?, skipped, valued?_cons_of_plain takes, plainLetters_cons_of_plain takes,
        valuedLetters_cons_of_plain takes]
      simp only [ih, Option.map_map]
      rfl

theorem expand?_of_unknown (unknown : c ∈ table.plainLetters letters)
    (absent : table.knows c = false) : table.expand? letters = none := by
  induction letters with
  | nil => simp [plainLetters] at unknown
  | cons first rest ih =>
    cases takes : table.takesValue first with
    | true => simp [plainLetters_cons_of_valued takes] at unknown
    | false =>
      rw [plainLetters_cons_of_plain takes] at unknown
      cases entry : table.letter? first with
      | none => simp [expand?, entry]
      | some flag =>
        rw [takesValue_eq entry] at takes
        rcases List.mem_cons.mp unknown with same | later
        · simp [knows, same, entry] at absent
        · simp [expand?, entry, takes, ih later]

theorem expand?_of_known (known : ∀ x ∈ table.plainLetters letters, table.knows x = true) :
    table.expand? letters =
      some ⟨(table.plainLetters letters).filterMap table.letter?, table.valued? letters⟩ := by
  induction letters with
  | nil => rfl
  | cons first rest ih =>
    cases takes : table.takesValue first with
    | true =>
      obtain ⟨flag, entry, valued⟩ := exists_flag_of_takesValue takes
      rw [plainLetters_cons_of_valued takes, valued?_cons_of_valued entry takes]
      simp [expand?, entry, valued]
    | false =>
      rw [plainLetters_cons_of_plain takes] at known ⊢
      obtain ⟨flag, entry⟩ := Option.isSome_iff_exists.mp (known first List.mem_cons_self)
      rw [valued?_cons_of_plain takes]
      rw [takesValue_eq entry] at takes
      simp [expand?, entry, takes, ih fun x member => known x (List.mem_cons_of_mem _ member)]

theorem some_flag_of_known (known : ∀ x ∈ table.plainLetters letters, table.knows x = true)
    (some_letter : letters ≠ []) :
    (table.plainLetters letters).filterMap table.letter? ≠ [] ∨ table.valued? letters ≠ none := by
  cases letters with
  | nil => exact absurd rfl some_letter
  | cons first rest =>
    cases takes : table.takesValue first with
    | true =>
      obtain ⟨flag, entry, -⟩ := exists_flag_of_takesValue takes
      exact .inr (by simp [valued?_cons_of_valued entry takes])
    | false =>
      rw [plainLetters_cons_of_plain takes] at known ⊢
      obtain ⟨flag, entry⟩ := Option.isSome_iff_exists.mp (known first List.mem_cons_self)
      exact .inl (by simp [entry])

end Handover.FlagTable

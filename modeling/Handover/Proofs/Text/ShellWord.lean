import Handover.Text.ShellWord

/-!
How a POSIX shell splits a line into words. Blanks outside quotes end a word, and quotes are no part
of it. A line that a shell would do more with (expand something, run several commands, go on to the
next line) has no words here. A line that was written for a list of words is split into these words.
-/

namespace Handover.Text

/-- What encloses the next character of a line. -/
inductive Quotes where
  | none
  | single
  | double

/-- Outside quotes a shell does more with these than to put them into a word. -/
def isActive (c : Char) : Bool := "\n\\$`|&;<>()*?[]#~!\x7b\x7d".toList.contains c

/-- Inside double quotes these keep their meaning. -/
def isActiveInDouble (c : Char) : Bool := "\\$`".toList.contains c

/-- The words of a line from a character on, where `word` is the word that has begun before it. Even
quotes with nothing inside begin a word. -/
def wordsFrom : Quotes → (word : Option (List Char)) → List Char → Option (List String)
  | .none, word, [] => some (word.map String.ofList).toList
  | _, _, [] => none
  | .none, word, c :: rest =>
    if c = ' ' ∨ c = '\t' then
      (wordsFrom .none none rest).map ((word.map String.ofList).toList ++ ·)
    else if c = '\x27' then wordsFrom .single (word.getD []) rest
    else if c = '\x22' then wordsFrom .double (word.getD []) rest
    else if isActive c then none
    else wordsFrom .none (word.getD [] ++ [c]) rest
  | .single, word, c :: rest =>
    if c = '\x27' then wordsFrom .none word rest
    else wordsFrom .single (word.getD [] ++ [c]) rest
  | .double, word, c :: rest =>
    if c = '\x22' then wordsFrom .none word rest
    else if isActiveInDouble c then none
    else wordsFrom .double (word.getD [] ++ [c]) rest

def shellWords? (line : String) : Option (List String) := wordsFrom .none none line.toList

variable {cs : List Char}

theorem wordsFrom_cons_of_harmless {c : Char} (harmless : isHarmless c = true)
    (word : Option (List Char)) (rest : List Char) :
    wordsFrom .none word (c :: rest) = wordsFrom .none (some (word.getD [] ++ [c])) rest := by
  have other {x : Char} (harmful : isHarmless x = false) : c ≠ x := by
    rintro rfl
    rw [harmless] at harmful
    cases harmful
  have blank : ¬(c = ' ' ∨ c = '\t') :=
    fun either => either.elim (other (by decide)) (other (by decide))
  have active : ¬isActive c = true := by
    have harmful : ∀ x, isActive x = true → isHarmless x = false := by
      intro x active
      have all : ("\n\\$`|&;<>()*?[]#~!\x7b\x7d".toList.all fun y => !isHarmless y) = true := by
        decide
      simpa using List.all_eq_true.mp all x (List.contains_iff_mem.mp active)
    exact fun active => other (harmful c active) rfl
  rw [wordsFrom, if_neg blank, if_neg (other (by decide)), if_neg (other (by decide)),
    if_neg active]

theorem wordsFrom_of_harmless (harmless : ∀ c ∈ cs, isHarmless c = true) (word rest : List Char) :
    wordsFrom .none (some word) (cs ++ rest) = wordsFrom .none (some (word ++ cs)) rest := by
  induction cs generalizing word with
  | nil => rw [List.nil_append, List.append_nil]
  | cons c others ih =>
    have first := harmless c List.mem_cons_self
    have later := ih (fun x member => harmless x (List.mem_cons_of_mem c member)) (word ++ [c])
    rw [List.cons_append, wordsFrom_cons_of_harmless first, Option.getD_some, later,
      List.append_assoc, List.singleton_append]

theorem wordsFrom_single (cs word rest : List Char) :
    wordsFrom .single (some word) ((cs.flatMap fun c =>
      if c = '\x27' then "'\x22'\x22'".toList else [c]) ++ '\x27' :: rest) =
        wordsFrom .none (some (word ++ cs)) rest := by
  induction cs generalizing word with
  | nil => rw [List.flatMap_nil, List.nil_append, List.append_nil, wordsFrom, if_pos rfl]
  | cons c others ih =>
    have later := ih (word ++ [c])
    rw [List.append_assoc, List.singleton_append] at later
    rw [List.flatMap_cons, List.append_assoc]
    by_cases quote : c = '\x27'
    · rw [if_pos quote, ← later, quote]
      rfl
    · rw [if_neg quote, ← later, List.singleton_append, wordsFrom, if_neg quote, Option.getD_some]

/-- A word that was written is read as a word, whatever follows. -/
theorem wordsFrom_shellWord (s : String) (rest : List Char) :
    wordsFrom .none none ((shellWord s).toList ++ rest) = wordsFrom .none (some s.toList) rest := by
  unfold shellWord
  split
  next empty =>
    rw [String.isEmpty_iff.mp empty]
    rfl
  next some_char =>
    split
    next harmless =>
      rw [List.all_eq_true] at harmless
      cases characters : s.toList with
      | nil =>
        have empty := String.toList_eq_nil_iff.mp characters
        exact absurd (String.isEmpty_iff.mpr empty) some_char
      | cons c others =>
        rw [characters] at harmless
        rw [List.cons_append, wordsFrom_cons_of_harmless (harmless c List.mem_cons_self),
          wordsFrom_of_harmless fun x member => harmless x (List.mem_cons_of_mem c member)]
        rfl
    next =>
      simp only [String.toList_append, String.toList_ofList, List.append_assoc]
      exact wordsFrom_single s.toList [] rest

theorem shellWords?_shellLine (words : List String) :
    shellWords? (shellLine words) = some words := by
  unfold shellWords? shellLine
  induction words with
  | nil => rfl
  | cons word rest ih =>
    have ended := wordsFrom_shellWord word []
    cases rest with
    | nil =>
      rw [List.append_nil] at ended
      rw [List.map_singleton, String.intercalate_singleton, ended, wordsFrom, Option.map_some,
        String.ofList_toList]
      rfl
    | cons next others =>
      rw [List.map_cons, List.map_cons, String.intercalate_cons_cons, ← List.map_cons,
        String.toList_append, String.toList_append, List.append_assoc, wordsFrom_shellWord]
      change wordsFrom .none (some word.toList)
        (' ' :: (String.intercalate " " ((next :: others).map shellWord)).toList) = _
      rw [wordsFrom, if_pos (.inl rfl), ih]
      simp

/-- Nothing is lost of quotes, blanks and backslashes, nor of an empty word. -/
example : shellWords? "'it'\x22'\x22's' '' 'a b\\'" = some ["it's", "", "a b\\"] := by decide

end Handover.Text

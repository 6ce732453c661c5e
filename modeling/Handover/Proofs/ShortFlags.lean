import Handover.Proofs.Respelling.Walk

/-!
Short flags as a tool receives them. The letters of a word are flags one by one. A letter that takes
a value takes the rest of its word, or else the next word. The same flags can be given in a cluster,
each in a word of its own, and with the last value attached or not.
-/

namespace Handover

structure ShortFlag where
  letter : Char
  value : Option String := none
  deriving DecidableEq

namespace ShortFlag

/-- The flags among the letters of a word, and the letter at their end that still needs a value. -/
def ofLetters (valued : Char → Bool) : List Char → List ShortFlag × Option Char
  | [] => ([], none)
  | c :: rest =>
    if valued c then
      if rest.isEmpty then ([], some c) else ([⟨c, some (String.ofList rest)⟩], none)
    else
      let (flags, last) := ofLetters valued rest
      (⟨c, none⟩ :: flags, last)

/-- The flags in words each of which is a dash with letters, or the value of the letter before it.
Other words have no reading, and neither has a letter that lacks its value. -/
def ofWords? (valued : Char → Bool) : List String → Option (List ShortFlag)
  | [] => some []
  | word :: rest =>
    match Token.shape word with
    | .short letters =>
      match ofLetters valued letters with
      | (flags, none) => (ofWords? valued rest).map (flags ++ ·)
      | (flags, some c) =>
        match rest with
        | [] => none
        | value :: rest =>
          (ofWords? valued rest).map fun others => flags ++ ⟨c, some value⟩ :: others
    | _ => none

def given (letters : List Char) (last : Char) (value : String) : List ShortFlag :=
  letters.map (fun c => ⟨c, none⟩) ++ [⟨last, some value⟩]

variable {valued : Char → Bool} {before letters : List Char} {c : Char} {word value : String}
  {flags : List ShortFlag}

theorem ofLetters_append (plain : ∀ x ∈ before, valued x = false) (letters : List Char) :
    ofLetters valued (before ++ letters) =
      (before.map (fun x => ⟨x, none⟩) ++ (ofLetters valued letters).1,
        (ofLetters valued letters).2) := by
  induction before with
  | nil => rfl
  | cons x rest ih =>
    have first := plain x List.mem_cons_self
    have others := ih fun y member => plain y (List.mem_cons_of_mem x member)
    rw [List.cons_append, ofLetters, first, others]
    rfl

theorem ofWords?_of_complete (shape : Token.shape word = .short letters)
    (complete : ofLetters valued letters = (flags, none)) (rest : List String) :
    ofWords? valued (word :: rest) = (ofWords? valued rest).map (flags ++ ·) := by
  rw [ofWords?, shape]
  simp only [complete]

theorem ofWords?_of_open (shape : Token.shape word = .short letters)
    (last : ofLetters valued letters = (flags, some c)) (value : String) (rest : List String) :
    ofWords? valued (word :: value :: rest) =
      (ofWords? valued rest).map fun others => flags ++ ⟨c, some value⟩ :: others := by
  rw [ofWords?, shape]
  simp only [last]

section

variable (takes : valued c = true) (plain : ∀ x ∈ before, valued x = false)
include takes plain

theorem ofWords?_cluster (clear : (before ++ [c]).head? ≠ some '-') (value : String) :
    ofWords? valued [String.ofList ('-' :: (before ++ [c])), value] =
      some (given before c value) := by
  have last : ofLetters valued (before ++ [c]) = (before.map (fun x => ⟨x, none⟩), some c) := by
    rw [ofLetters_append plain]
    simp [ofLetters, takes]
  rw [ofWords?_of_open (Token.shape_ofList (by simp) clear) last]
  rfl

theorem ofWords?_attached {attached : List Char} (some_value : attached ≠ [])
    (clear : (before ++ c :: attached).head? ≠ some '-') :
    ofWords? valued [String.ofList ('-' :: (before ++ c :: attached))] =
      some (given before c (String.ofList attached)) := by
  have complete : ofLetters valued (before ++ c :: attached) =
      (given before c (String.ofList attached), none) := by
    rw [ofLetters_append plain]
    simp [ofLetters, takes, some_value, given]
  rw [ofWords?_of_complete (Token.shape_ofList (by simp) clear) complete]
  simp [ofWords?]

theorem ofWords?_separate (clear : '-' ∉ before ++ [c]) (value : String) :
    ofWords? valued (before.map (fun x => String.ofList ['-', x]) ++
      [String.ofList ['-', c], value]) = some (given before c value) := by
  induction before with
  | nil =>
    have single : ([] ++ [c]).head? ≠ some '-' := by simpa [eq_comm] using clear
    exact ofWords?_cluster takes (by simp) single value
  | cons x rest ih =>
    rw [List.cons_append, List.mem_cons, not_or] at clear
    obtain ⟨first, later⟩ := clear
    have others := ih (fun y member => plain y (List.mem_cons_of_mem x member)) later
    have alone : ofLetters valued [x] = ([⟨x, none⟩], none) := by
      simp [ofLetters, plain x List.mem_cons_self]
    have shape : Token.shape (String.ofList ['-', x]) = .short [x] :=
      Token.shape_ofList (by simp) (by simpa [eq_comm] using first)
    rw [List.map_cons, List.cons_append, ofWords?_of_complete shape alone, others]
    rfl

end

end ShortFlag

end Handover

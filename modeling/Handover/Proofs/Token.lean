import Handover.Token

/-!
How the shape of a token tells the token. A name ends at the first equals sign, so a long token with
one is its name, the sign, and whatever is attached.
-/

namespace Handover.Token

/-- Two dashes and whatever has no equals sign. -/
def IsName (name : String) : Prop := ∃ cs, name.toList = '-' :: '-' :: cs ∧ '=' ∉ cs

variable {token name value : String} {cs : List Char} {attached : Option String}

theorem ne_of_mem_clear (clear : '=' ∉ cs) : ∀ c ∈ cs, (c != '=') = true := by
  intro c member
  simpa using fun same : c = '=' => clear (same ▸ member)

theorem shape_bare (long : token.toList = '-' :: '-' :: cs) (named : cs ≠ []) (clear : '=' ∉ cs) :
    shape token = .long token none := by
  have name : (cs ++ []).takeWhile (· != '=') = cs ++ [] :=
    List.takeWhile_append_of_pos (ne_of_mem_clear clear)
  have rest : (cs ++ []).dropWhile (· != '=') = [] :=
    List.dropWhile_append_of_pos (ne_of_mem_clear clear)
  rw [List.append_nil] at name rest
  unfold shape
  split
  next same => simp_all
  next others _ same =>
    obtain rfl : cs = others := by simpa [long] using same
    rw [name, rest, ← long, String.ofList_toList]
  next => simp_all
  next => simp_all

theorem shape_attached (named : IsName name) (value : String) :
    shape (name ++ "=" ++ value) = .long name (some value) := by
  obtain ⟨cs, dashes, clear⟩ := named
  have whole : (name ++ "=" ++ value).toList = '-' :: '-' :: (cs ++ '=' :: value.toList) := by
    simp [dashes]
  unfold shape
  split
  next same => simp_all
  next others _ same =>
    obtain rfl : cs ++ '=' :: value.toList = others := by simpa [whole] using same
    rw [List.takeWhile_append_of_pos (ne_of_mem_clear clear),
      List.dropWhile_append_of_pos (ne_of_mem_clear clear)]
    simp [← dashes]
  next => simp_all
  next => simp_all

theorem exists_of_shape_long (long : shape token = .long name attached) :
    ∃ cs, token.toList = '-' :: '-' :: cs ∧ cs ≠ [] := by
  unfold shape at long
  split at long
  · cases long
  next cs other same => exact ⟨cs, same, fun empty => by simp_all⟩
  · cases long
  · cases long

theorem shape_long_cases (long : shape token = .long name attached) :
    attached = none ∧ name = token ∧ IsName name ∨
      ∃ value, attached = some value ∧ token = name ++ "=" ++ value ∧ IsName name := by
  obtain ⟨cs, dashes, named⟩ := exists_of_shape_long long
  by_cases sign : '=' ∈ cs
  · obtain ⟨before, after, rfl, clear⟩ := List.eq_append_cons_of_mem sign
    have split : token =
        String.ofList ('-' :: '-' :: before) ++ "=" ++ String.ofList after := by
      apply String.toList_inj.mp
      simp [dashes]
    have isName : IsName (String.ofList ('-' :: '-' :: before)) :=
      ⟨before, String.toList_ofList, clear⟩
    rw [split, shape_attached isName] at long
    cases long
    exact .inr ⟨_, rfl, split, isName⟩
  · rw [shape_bare dashes named sign] at long
    cases long
    exact .inl ⟨rfl, rfl, cs, dashes, sign⟩

theorem shape_attached_of_bare (bare : shape name = .long name none) (value : String) :
    shape (name ++ "=" ++ value) = .long name (some value) := by
  rcases shape_long_cases bare with ⟨-, -, named⟩ | ⟨other, same, -⟩
  · exact shape_attached named value
  · cases same

theorem letters_of_shape_short {letters : List Char} (short : shape token = .short letters) :
    token.toList = '-' :: letters ∧ letters.head? ≠ some '-' := by
  unfold shape at short
  split at short
  · cases short
  · cases short
  next other same =>
    cases short
    exact ⟨same, fun dash => by simp_all⟩
  · cases short

end Handover.Token

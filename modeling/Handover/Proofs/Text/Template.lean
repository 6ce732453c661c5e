/-!
Templates. A name between braces is a field, and a brace that is text is written twice. Fields are
filled in from left to right, and what stands for a field is not read again: braces in it are text.
-/

namespace Handover.Text

/-- Fills in a template from a character on, where `field` is the part of a name that has begun
before it. There is no filling where a brace stands alone, or where a name has no value. -/
def fillFrom (values : List (String × String)) :
    (field : Option (List Char)) → List Char → Option (List Char)
  | none, [] => some []
  | some _, [] => none
  | none, c :: rest =>
    if c = '\x7b' then fillFrom values (some []) rest
    else if c = '\x7d' then
      match rest with
      | '\x7d' :: rest => (fillFrom values none rest).map ('\x7d' :: ·)
      | _ => none
    else (fillFrom values none rest).map (c :: ·)
  | some name, c :: rest =>
    if c = '\x7b' then
      if name.isEmpty then (fillFrom values none rest).map ('\x7b' :: ·) else none
    else if c = '\x7d' then
      match values.lookup (String.ofList name) with
      | none => none
      | some value => (fillFrom values none rest).map (value.toList ++ ·)
    else fillFrom values (some (name ++ [c])) rest

def fill? (values : List (String × String)) (template : String) : Option String :=
  (fillFrom values none template.toList).map String.ofList

def field (name : String) : String := "\x7b" ++ name ++ "\x7d"

def isText (c : Char) : Bool := c != '\x7b' && c != '\x7d'

variable {values : List (String × String)} {cs others : List Char} {c : Char}
  {text name value : String}

theorem all_isText_cons (plain : (c :: others).all isText = true) :
    c ≠ '\x7b' ∧ c ≠ '\x7d' ∧ others.all isText = true := by
  simp only [List.all_cons, isText, Bool.and_eq_true, bne_iff_ne, and_assoc] at plain
  exact plain

theorem fillFrom_text (plain : cs.all isText = true) (rest : List Char) :
    fillFrom values none (cs ++ rest) = (fillFrom values none rest).map (cs ++ ·) := by
  induction cs with
  | nil => simp
  | cons c others ih =>
    obtain ⟨unopened, unclosed, later⟩ := all_isText_cons plain
    rw [List.cons_append, fillFrom.eq_def]
    simp only [if_neg unopened, if_neg unclosed, ih later, Option.map_map]
    rfl

theorem fillFrom_name (plain : cs.all isText = true) (before rest : List Char) :
    fillFrom values (some before) (cs ++ rest) = fillFrom values (some (before ++ cs)) rest := by
  induction cs generalizing before with
  | nil => simp
  | cons c others ih =>
    obtain ⟨unopened, unclosed, later⟩ := all_isText_cons plain
    have behind := ih later (before ++ [c])
    rw [List.append_assoc, List.singleton_append] at behind
    rw [List.cons_append, fillFrom, if_neg unopened, if_neg unclosed, behind]

theorem fillFrom_field (plain : cs.all isText = true)
    (given : values.lookup (String.ofList cs) = some value) (rest : List Char) :
    fillFrom values none ('\x7b' :: (cs ++ '\x7d' :: rest)) =
      (fillFrom values none rest).map (value.toList ++ ·) := by
  rw [fillFrom.eq_def]
  simp only [if_true]
  rw [fillFrom_name plain, List.nil_append, fillFrom, if_neg (by decide), if_pos rfl]
  simp only [given]

theorem map_ofList_append (text : String) (filled : Option (List Char)) :
    (filled.map (text.toList ++ ·)).map String.ofList =
      (filled.map String.ofList).map (text ++ ·) := by
  cases filled with
  | none => rfl
  | some cs => exact congrArg some (String.toList_inj.mp (by simp))

theorem fill?_text_append (plain : text.toList.all isText = true) (rest : String) :
    fill? values (text ++ rest) = (fill? values rest).map (text ++ ·) := by
  rw [fill?, String.toList_append, fillFrom_text plain, map_ofList_append]
  rfl

theorem fill?_field_append (plain : name.toList.all isText = true)
    (given : values.lookup name = some value) (rest : String) :
    fill? values (field name ++ rest) = (fill? values rest).map (value ++ ·) := by
  have spelled : (field name ++ rest).toList =
      '\x7b' :: (name.toList ++ '\x7d' :: rest.toList) := by
    simp [field]
  rw [fill?, spelled, fillFrom_field plain (by rwa [String.ofList_toList]), map_ofList_append]
  rfl

theorem fill?_of_text (plain : text.toList.all isText = true) : fill? values text = some text := by
  rw [fill?, ← List.append_nil text.toList, fillFrom_text plain]
  simp [fillFrom]

end Handover.Text

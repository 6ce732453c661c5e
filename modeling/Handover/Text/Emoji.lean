import Handover.Text.Blank
import Handover.Text.Case

/-!
Emoji in a text. A name between two colons stands for an emoji, in the form that is asked for behind
the name. Where no emoji has the name, the text stays as it is.
-/

namespace Handover.Text

/-- What is asked for behind a name, with the character that selects it. -/
def emojiForms : List (List Char × Char) :=
  [("-emoji".toList, '\ufe0f'), ("-text".toList, '\ufe0e')]

def nameAndForm (code : List Char) : List Char × List Char :=
  match emojiForms.find? fun form => form.1.isSuffixOf code with
  | some (suffix, selector) => (code.take (code.length - suffix.length), [selector])
  | none => (code, [])

variable (emoji? : String → Option String)

def emojiOfCode? (code : List Char) : Option (List Char) :=
  let (name, form) := nameAndForm code
  (emoji? (lower (String.ofList name))).map (·.toList ++ form)

/-- Goes on behind a colon with what has been read of a code there. A blank ends it. -/
def replaceCodes : (code? : Option (List Char)) → List Char → List Char
  | none, [] => []
  | some code, [] => ':' :: code
  | none, c :: rest => if c = ':' then replaceCodes (some []) rest else c :: replaceCodes none rest
  | some code, c :: rest =>
    if c = ':' then (emojiOfCode? emoji? code).getD (':' :: code ++ [':']) ++ replaceCodes none rest
    else if isBlank c then ':' :: code ++ c :: replaceCodes none rest
    else replaceCodes (some (code ++ [c])) rest

def withEmoji (s : String) : String := String.ofList (replaceCodes emoji? none s.toList)

theorem replaceCodes_of_not_mem {cs : List Char} (no_colon : ':' ∉ cs) :
    replaceCodes emoji? none cs = cs := by
  induction cs with
  | nil => rfl
  | cons c rest ih =>
    have different : c ≠ ':' := fun same => no_colon (same ▸ List.mem_cons_self)
    rw [replaceCodes, if_neg different, ih fun member => no_colon (List.mem_cons_of_mem _ member)]

theorem withEmoji_of_not_mem {s : String} (no_colon : ':' ∉ s.toList) :
    withEmoji emoji? s = s := by
  rw [withEmoji, replaceCodes_of_not_mem emoji? no_colon, String.ofList_toList]

end Handover.Text

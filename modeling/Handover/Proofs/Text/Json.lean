import Handover.Text.Json
import Handover.Text.Terminal

/-!
A document consists of lines of visible ASCII characters and blanks, whatever its texts are. So it
holds no control sequence, and none is taken out of it.
-/

namespace Handover.Text

def IsPlain (s : String) : Prop := ∀ c ∈ s.toList, c = '\n' ∨ 0x20 ≤ c.toNat ∧ c.toNat < 0x7f

instance (s : String) : Decidable (IsPlain s) := List.decidableBAll _ s.toList

variable {first second separator s : String} {items : List String}

theorem isPlain_append (head : IsPlain first) (tail : IsPlain second) :
    IsPlain (first ++ second) := by
  intro c member
  rw [String.toList_append] at member
  exact (List.mem_append.mp member).elim (head c) (tail c)

theorem isPlain_intercalate (between : IsPlain separator) (each : ∀ item ∈ items, IsPlain item) :
    IsPlain (String.intercalate separator items) := by
  induction items with
  | nil =>
    rw [String.intercalate_nil]
    decide
  | cons item rest ih =>
    have first := each item List.mem_cons_self
    have others := ih fun other member => each other (List.mem_cons_of_mem item member)
    cases rest with
    | nil => rwa [String.intercalate_singleton]
    | cons next rest =>
      rw [String.intercalate_cons_cons]
      exact isPlain_append (isPlain_append first between) others

theorem withoutSequences_of_plain (plain : IsPlain s) : withoutSequences s = s := by
  refine withoutSequences_eq_self fun member => ?_
  exact absurd (plain _ member) (by decide)

def Visible (cs : List Char) : Prop := ∀ c ∈ cs, 0x20 ≤ c.toNat ∧ c.toNat < 0x7f

instance (cs : List Char) : Decidable (Visible cs) := List.decidableBAll _ cs

theorem visible_append {before after : List Char} (head : Visible before) (tail : Visible after) :
    Visible (before ++ after) := fun c member =>
  (List.mem_append.mp member).elim (head c) (tail c)

theorem visible_ite {condition : Prop} [Decidable condition] {yes no : List Char}
    (positive : condition → Visible yes) (negative : ¬condition → Visible no) :
    Visible (if condition then yes else no) := by
  split
  next holds => exact positive holds
  next fails => exact negative fails

theorem visible_hexDigits (width n : Nat) : Visible (hexDigits width n) := by
  induction width generalizing n with
  | zero => exact fun c member => by cases member
  | succ width ih =>
    have digits : ∀ k < 16, Visible [Nat.digitChar k] := by decide
    exact visible_append (ih (n / 16)) (digits (n % 16) (Nat.mod_lt n (by decide)))

namespace Json

theorem visible_unitEscape (n : Nat) : Visible (unitEscape n) :=
  visible_append (by decide : Visible ['\\', 'u']) (visible_hexDigits 4 n)

theorem visible_escapeChar (c : Char) : Visible (escapeChar c) := by
  -- the characters with an escape of their own come first
  iterate 7 refine visible_ite (fun _ => by decide) fun _ => ?_
  refine visible_ite (fun visible => ?_) fun _ => visible_ite (fun _ => ?_) fun _ => ?_
  · exact List.forall_mem_singleton.mpr visible
  · exact visible_unitEscape _
  · exact visible_append (visible_unitEscape _) (visible_unitEscape _)

theorem isPlain_text (s : String) : IsPlain (text s) := by
  intro x member
  rw [text, String.toList_ofList] at member
  simp only [List.cons_append, List.mem_cons, List.mem_append, List.mem_flatMap,
    List.not_mem_nil, or_false] at member
  rcases member with rfl | ⟨c, -, escaped⟩ | rfl
  · decide
  · exact .inr (visible_escapeChar c x escaped)
  · decide

theorem isPlain_block {opening closing : String} (start : IsPlain opening) (stop : IsPlain closing)
    (depth : Nat) (each : ∀ item ∈ items, IsPlain item) :
    IsPlain (block opening closing depth items) := by
  have margin (depth : Nat) : IsPlain ("\n" ++ String.ofList (List.replicate (2 * depth) ' ')) := by
    refine isPlain_append (by decide) fun c member => ?_
    rw [String.toList_ofList] at member
    rw [List.eq_of_mem_replicate member]
    decide
  unfold block
  cases items with
  | nil => exact isPlain_append start stop
  | cons item rest =>
    have comma : IsPlain "," := by decide
    have separated := isPlain_intercalate (isPlain_append comma (margin (depth + 1))) each
    have opened := isPlain_append (isPlain_append start (margin (depth + 1))) separated
    exact isPlain_append (isPlain_append opened (margin depth)) stop

theorem isPlain_list (depth : Nat) (texts : List String) : IsPlain (list depth texts) := by
  refine isPlain_block (by decide) (by decide) depth fun item member => ?_
  obtain ⟨s, -, rfl⟩ := List.mem_map.mp member
  exact isPlain_text s

theorem isPlain_object (fields : List (String × List String)) : IsPlain (object fields) := by
  refine isPlain_block (by decide) (by decide) 0 fun item member => ?_
  obtain ⟨⟨name, texts⟩, -, rfl⟩ := List.mem_map.mp member
  exact isPlain_append (isPlain_append (isPlain_text name) (by decide)) (isPlain_list 1 texts)

end Json

end Handover.Text

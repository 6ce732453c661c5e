import Handover.Flag.Listing
import Handover.Proofs.Grid.Picture
import Mathlib.Data.List.Nodup

/-!
Listings of flags as they are shown. Each flag has one row, in the order in which the flags come
first and with what was said last of them. Where the last column has room for its words, the picture
keeps all of it. Blanks at the start of a text take room too, and a word can be lost to them. So can
a name between colons, where the console knows an emoji of that name.
-/

namespace Handover

namespace Entries

variable {κ ν : Type} [BEq κ] {entries : List (κ × ν)} {key : κ} {value : ν}

theorem ofList_concat (before : List (κ × ν)) (pair : κ × ν) :
    ofList (· == ·) (before ++ [pair]) = put (· == ·) pair.1 pair.2 (ofList (· == ·) before) := by
  rw [ofList, List.foldl_append, List.foldl_cons, List.foldl_nil]
  rfl

variable [LawfulBEq κ]

theorem keys_put (key : κ) (value : ν) (entries : List (κ × ν)) :
    (put (· == ·) key value entries).map (·.1) =
      if (entries.map (·.1)).contains key then entries.map (·.1)
      else entries.map (·.1) ++ [key] := by
  induction entries with
  | nil => rfl
  | cons entry rest ih =>
    by_cases same : entry.1 = key
    · simp [put, same]
    · have other : ¬(key == entry.1) = true := by simpa using Ne.symm same
      simp only [put, beq_iff_eq, same, if_false, List.map_cons, ih, List.contains_cons, other,
        Bool.false_or]
      split <;> rfl

theorem keys_ofList (pairs : List (κ × ν)) :
    (ofList (· == ·) pairs).map (·.1) = (pairs.map (·.1)).eraseDups := by
  induction pairs using List.reverseRecOn with
  | nil => rfl
  | append_singleton before pair ih =>
    rw [ofList_concat, keys_put, ih, List.map_append, List.eraseDups_append]
    have known : (before.map (·.1)).eraseDups.contains pair.1 =
        (before.map (·.1)).contains pair.1 := by
      rw [List.contains_eq_mem, List.contains_eq_mem]
      exact decide_eq_decide.mpr List.mem_eraseDups
    rw [known, List.map_singleton, List.cons_removeAll, List.nil_removeAll]
    cases (before.map (·.1)).contains pair.1 <;> simp [List.eraseDups_cons]

theorem nodup_keys_ofList (pairs : List (κ × ν)) :
    ((ofList (· == ·) pairs).map (·.1)).Nodup := by
  induction pairs using List.reverseRecOn with
  | nil => exact List.nodup_nil
  | append_singleton before pair ih =>
    rw [ofList_concat, keys_put]
    split
    next => exact ih
    next fresh =>
      rw [← List.concat_eq_append]
      exact List.Nodup.concat (by simpa using fresh) ih

theorem get?_ofList (pairs : List (κ × ν)) (key : κ) :
    get? (· == ·) key (ofList (· == ·) pairs) = pairs.reverse.lookup key := by
  induction pairs using List.reverseRecOn with
  | nil => rfl
  | append_singleton before pair ih =>
    rw [ofList_concat, List.reverse_append, List.reverse_singleton, List.singleton_append]
    by_cases same : key = pair.1
    · rw [same, get?_put_self, List.lookup_cons_self]
    · rw [get?_put_of_ne same, ih, List.lookup_cons, beq_false_of_ne same]

theorem get?_of_mem (distinct : (entries.map (·.1)).Nodup) (member : (key, value) ∈ entries) :
    get? (· == ·) key entries = some value := by
  induction entries with
  | nil => cases member
  | cons entry rest ih =>
    obtain ⟨fresh, others⟩ := List.nodup_cons.mp distinct
    rcases List.mem_cons.mp member with rfl | later
    · simp [get?]
    · have other : entry.1 ≠ key := by
        rintro rfl
        exact fresh (List.mem_map.mpr ⟨_, later, rfl⟩)
      simpa [get?, other] using ih others later

end Entries

namespace Listing

variable {title : String} {caption : Option String} {notes : List (String × FlagNote)}
  {emoji? : String → Option String} {console : Nat}

theorem regular_grid
    (single : ∀ row ∈ (grid title caption notes).rows, ∀ cell ∈ row, '\n' ∉ cell.toList) :
    (grid title caption notes).Regular where
  named := (by decide : Grid.words "Warning".toList ≠ [])
  even := by
    refine List.forall_mem_cons.mpr ⟨rfl, fun row member => ?_⟩
    obtain ⟨entry, -, rfl⟩ := List.mem_map.mp member
    rfl
  single := by
    have names : ∀ cell ∈ ["Legacy flag", "ztc flag", "Class", "Value", "Warning"],
        '\n' ∉ cell.toList := by
      decide
    exact List.forall_mem_cons.mpr ⟨names, single⟩

theorem plain_grid
    (plain : ∀ row ∈ (grid title caption notes).rows, ∀ cell ∈ row,
      Text.withEmoji emoji? cell = cell) : (grid title caption notes).Plain emoji? := by
  have names : ∀ cell ∈ ["Legacy flag", "ztc flag", "Class", "Value", "Warning"],
      ':' ∉ cell.toList := by
    decide
  exact List.forall_mem_cons.mpr
    ⟨fun cell member => Text.withEmoji_of_not_mem emoji? (names cell member), plain⟩

/-- The listing has a row for each flag, in the order in which they come first, with what is noted
last of it. Where the last column has room for the words of each of its texts, the first word
together with the blanks before it, the picture shows all of it in lines that are even. This goes
for texts of flags that have no emoji in them. -/
theorem complete_grid
    (plain : ∀ row ∈ (grid title caption notes).rows, ∀ cell ∈ row,
      Text.withEmoji emoji? cell = cell)
    (single : ∀ row ∈ (grid title caption notes).rows, ∀ cell ∈ row, '\n' ∉ cell.toList)
    (room : (grid title caption notes).HasRoom console) :
    (grid title caption notes).Complete emoji? console ∧
      ∃ entries : List (String × FlagNote),
        (grid title caption notes).rows = entries.map (fun entry => entry.2.row entry.1) ∧
        entries.map (·.1) = (notes.map (·.1)).eraseDups ∧
        ∀ entry ∈ entries, notes.reverse.lookup entry.1 = some entry.2 := by
  refine ⟨(regular_grid single).complete_of_room (plain_grid plain) room,
    Entries.ofList (· == ·) notes, rfl, Entries.keys_ofList notes, fun entry member => ?_⟩
  rw [← Entries.get?_ofList]
  exact Entries.get?_of_mem (Entries.nodup_keys_ofList notes) member

def copyrightSign (name : String) : Option String := if name = "copyright" then some "©" else none

/-- The first flag comes twice, and its last note is broken before its last word. -/
def narrowed : Grid := grid "t" (some "2:30 :copyright:") [
  ("-a", { warning := .text "old" }), ("--bee", { current := .text "-b" }),
  ("-a", { warning := .text "  is gone now" })]

theorem complete_grid_narrowed :
    narrowed.HasRoom 55 ∧ narrowed.Complete copyrightSign 55 ∧
      narrowed.framed 55 = [
        "┏━━━━━━━━━━━━━┳━━━━━━━━━━┳━━━━━━━┳━━━━━━━┳━━━━━━━━━━━━┓",
        "┃ Legacy flag ┃ ztc flag ┃ Class ┃ Value ┃ Warning    ┃",
        "┡━━━━━━━━━━━━━╇━━━━━━━━━━╇━━━━━━━╇━━━━━━━╇━━━━━━━━━━━━┩",
        "│ -a          │          │       │       │   is gone  │",
        "│             │          │       │       │ now        │",
        "│ --bee       │ -b       │       │       │            │",
        "└─────────────┴──────────┴───────┴───────┴────────────┘"] := by
  have plain : ∀ row ∈ narrowed.rows, ∀ cell ∈ row,
      Text.withEmoji copyrightSign cell = cell := by
    decide +kernel
  have single : ∀ row ∈ narrowed.rows, ∀ cell ∈ row, '\n' ∉ cell.toList := by
    decide +kernel
  have room : narrowed.HasRoom 55 := by decide +kernel
  exact ⟨room, (complete_grid plain single room).1, by decide +kernel⟩

/-- A word with room on a line of its own, but not behind the blanks at the start of its text. -/
def indented : Grid := grid "t" none [("-a", { warning := .text "    lost" })]

def coded : Grid := grid "t" none [(":copyright:", { warning := .text "see :copyright: now" })]

/-- The last column has room for each word. Yet one is cut behind its blanks, and others give way to
emoji, the flag among them. -/
theorem incomplete_of_indented_or_coded :
    ((∀ row ∈ indented.rows, ∀ cell ∈ row, cell.toList.all Text.isPrintable = true) ∧
      (∀ row ∈ indented.headers :: indented.rows, ∀ word ∈ Grid.words (row.getLastD "").toList,
        word.length ≤ (indented.widths 52).getLastD 0) ∧
      ¬indented.Complete copyrightSign 52) ∧
    (∀ row ∈ coded.rows, ∀ cell ∈ row, cell.toList.all Text.isPrintable = true) ∧
      coded.HasRoom 80 ∧ ¬coded.Complete copyrightSign 80 ∧
      coded.picture copyrightSign 80 = [
        "                          t                           ",
        "┏━━━━━━━━━━━━━┳━━━━━━━━━━┳━━━━━━━┳━━━━━━━┳━━━━━━━━━━━┓",
        "┃ Legacy flag ┃ ztc flag ┃ Class ┃ Value ┃ Warning   ┃",
        "┡━━━━━━━━━━━━━╇━━━━━━━━━━╇━━━━━━━╇━━━━━━━╇━━━━━━━━━━━┩",
        "│ ©           │          │       │       │ see © now │",
        "└─────────────┴──────────┴───────┴───────┴───────────┘"] := by
  refine ⟨⟨by decide +kernel, by decide +kernel, fun complete => ?_⟩, by decide +kernel,
    by decide +kernel, fun complete => ?_, by decide +kernel⟩
  · have shows := complete.shown ["-a", "", "", "", "    lost"] List.mem_cons_self
    have lines : Grid.rowLines '│' (indented.widths 52) ["-a", "", "", "", "    lost"] =
        ["│ -a          │          │       │       │     lo… │"] := by
      decide +kernel
    rw [lines] at shows
    have read : Grid.cells? '│' (indented.widths 52)
        "│ -a          │          │       │       │     lo… │".toList =
          some ["-a".toList, [], [], [], "    lo…".toList] := by
      decide +kernel
    exact absurd (shows.words_single read) (by decide +kernel)
  · have drawn := complete.annotated (by decide +kernel) (by decide +kernel)
    exact absurd drawn (by decide +kernel)

end Listing

end Handover

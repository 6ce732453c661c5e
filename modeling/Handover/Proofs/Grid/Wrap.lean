import Handover.Grid.Wrap
import Mathlib.Data.List.DropRight

/-!
Wrapped texts. A text is broken before words only, so the lines have the words of the text in their
order. Lines are cut where a word has no room on a line of its own, and nowhere else.
-/

namespace Handover.Grid

open Text (isBlank)

variable {cs line : List Char} {parts : List (List Char)} {width : Nat}

/-- The words of a text, with any number of blanks between them. -/
def words (cs : List Char) : List (List Char) := (cs.splitOnP isBlank).filter (!·.isEmpty)

/-- There is room for each word of a text, and for the blanks at its start beside the first one. -/
structure Fits (width : Nat) (cs : List Char) : Prop where
  each : ∀ word ∈ words cs, word.length ≤ width
  first : ∀ word ∈ (words cs).head?, (cs.takeWhile isBlank).length + word.length ≤ width

instance (width : Nat) (cs : List Char) : Decidable (Fits width cs) :=
  decidable_of_iff ((∀ word ∈ words cs, word.length ≤ width) ∧
      ∀ word ∈ (words cs).head?, (cs.takeWhile isBlank).length + word.length ≤ width)
    ⟨fun ⟨each, first⟩ => ⟨each, first⟩, fun ⟨each, first⟩ => ⟨each, first⟩⟩

theorem words_append_blank {c : Char} (blank : isBlank c = true) (before after : List Char) :
    words (before ++ c :: after) = words before ++ words after := by
  rw [words, List.splitOnP_append_cons before after blank, List.filter_append]
  rfl

theorem ne_nil_of_mem_words {word : List Char} (member : word ∈ words cs) : word ≠ [] := by
  simpa using (List.mem_filter.mp member).2

theorem words_of_blank (blank : ∀ c ∈ cs, isBlank c = true) : words cs = [] := by
  induction cs with
  | nil => rfl
  | cons c rest ih =>
    have first := words_append_blank (blank c List.mem_cons_self) [] rest
    exact first.trans (ih fun x member => blank x (List.mem_cons_of_mem c member))

theorem words_of_word (some_char : cs ≠ []) (word : ∀ c ∈ cs, isBlank c = false) :
    words cs = [cs] := by
  rw [words, List.splitOnP_eq_singleton word, List.filter_cons_of_pos (by simpa using some_char)]
  rfl

theorem trimEnd_append_blanks {blanks : List Char} (blank : ∀ c ∈ blanks, isBlank c = true) :
    trimEnd (cs ++ blanks) = trimEnd cs := by
  induction blanks using List.reverseRecOn with
  | nil => rw [List.append_nil]
  | append_singleton rest c ih =>
    have last : isBlank c = true := blank c (List.mem_append_right rest List.mem_cons_self)
    have others := ih fun x member => blank x (List.mem_append_left [c] member)
    rw [← List.append_assoc]
    exact (List.rdropWhile_concat_pos isBlank _ c last).trans others

theorem exists_blanks (cs : List Char) :
    ∃ blanks, cs = trimEnd cs ++ blanks ∧ ∀ c ∈ blanks, isBlank c = true :=
  ⟨cs.rtakeWhile isBlank, List.rdropWhile_append_rtakeWhile.symm,
    fun _ => List.mem_rtakeWhile_imp⟩

theorem trimEnd_trimEnd (cs : List Char) : trimEnd (trimEnd cs) = trimEnd cs :=
  List.rdropWhile_idempotent isBlank cs

theorem length_trimEnd_le (cs : List Char) : (trimEnd cs).length ≤ cs.length :=
  (List.rdropWhile_prefix isBlank cs).length_le

theorem trimEnd_of_word (word : ∀ c ∈ cs, isBlank c = false) : trimEnd cs = cs := by
  refine List.rdropWhile_eq_self_iff.mpr fun some_char blank => ?_
  rw [word _ (List.getLast_mem some_char)] at blank
  cases blank

theorem length_trimEnd_append_le (line chunk : List Char) :
    (trimEnd (line ++ chunk)).length ≤ line.length + (trimEnd chunk).length := by
  obtain ⟨blanks, split, blank⟩ := exists_blanks chunk
  rw [split, ← List.append_assoc, trimEnd_append_blanks blank, trimEnd_append_blanks blank,
    trimEnd_trimEnd, ← List.length_append]
  exact length_trimEnd_le _

/-- The text ends in a blank, so no word runs on behind it. -/
def EndsBlank (cs : List Char) : Prop := ∃ front c, cs = front ++ [c] ∧ isBlank c = true

theorem EndsBlank.words_append (ends : EndsBlank line) (after : List Char) :
    words (line ++ after) = words line ++ words after := by
  obtain ⟨front, c, rfl, blank⟩ := ends
  have nothing : words [] = [] := rfl
  rw [List.append_assoc, List.singleton_append, words_append_blank blank,
    words_append_blank blank, nothing, List.append_nil]

theorem EndsBlank.append (ends : EndsBlank cs) (line : List Char) : EndsBlank (line ++ cs) := by
  obtain ⟨front, c, rfl, blank⟩ := ends
  exact ⟨line ++ front, c, (List.append_assoc line front [c]).symm, blank⟩

theorem words_append_blanks {blanks : List Char} (blank : ∀ c ∈ blanks, isBlank c = true) :
    words (cs ++ blanks) = words cs := by
  cases blanks with
  | nil => rw [List.append_nil]
  | cons c rest =>
    rw [words_append_blank (blank c List.mem_cons_self),
      words_of_blank fun x member => blank x (List.mem_cons_of_mem c member), List.append_nil]

theorem words_trimEnd (cs : List Char) : words (trimEnd cs) = words cs := by
  obtain ⟨blanks, split, blank⟩ := exists_blanks cs
  rw [split, trimEnd_append_blanks blank, words_append_blanks blank, trimEnd_trimEnd]

def Separated : List (List Char) → Prop
  | part :: next :: rest => EndsBlank part ∧ Separated (next :: rest)
  | _ => True

theorem Separated.tail {part : List Char} (separated : Separated (part :: parts)) :
    Separated parts := by
  cases parts with
  | nil => trivial
  | cons next rest => exact separated.2

theorem Separated.words_flatten (separated : Separated parts) :
    words parts.flatten = parts.flatMap words := by
  induction parts with
  | nil => rfl
  | cons part rest ih =>
    cases rest with
    | nil => simp
    | cons next rest =>
      rw [List.flatten_cons, separated.1.words_append, ih separated.2]
      rfl

/-- A word with the blanks after it. Either may be missing. -/
def IsChunk (chunk : List Char) : Prop :=
  ∃ word blanks, chunk = word ++ blanks ∧ (∀ c ∈ word, isBlank c = false) ∧
    ∀ c ∈ blanks, isBlank c = true

theorem words_of_isChunk {chunk : List Char} (isChunk : IsChunk chunk) :
    words chunk = if trimEnd chunk = [] then [] else [trimEnd chunk] := by
  obtain ⟨word, blanks, rfl, plain, blank⟩ := isChunk
  rw [trimEnd_append_blanks blank, trimEnd_of_word plain, words_append_blanks blank]
  split
  next none => rw [none]; rfl
  next some => exact words_of_word some plain

theorem isChunk_singleton (c : Char) : IsChunk [c] := by
  by_cases blank : isBlank c = true
  · exact ⟨[], [c], rfl, by simp, List.forall_mem_singleton.mpr blank⟩
  · exact ⟨[c], [], rfl, List.forall_mem_singleton.mpr (Bool.eq_false_iff.mpr blank), by simp⟩

theorem IsChunk.cons {c next : Char} {chunk : List Char} (isChunk : IsChunk (next :: chunk))
    (joined : isBlank c = true → isBlank next = true) : IsChunk (c :: next :: chunk) := by
  obtain ⟨word, blanks, split, plain, blank⟩ := isChunk
  rw [split]
  by_cases first : isBlank c = true
  · -- the next character is a blank too, so there is no word
    cases word with
    | nil => exact ⟨[], c :: blanks, rfl, plain, List.forall_mem_cons.mpr ⟨first, blank⟩⟩
    | cons x others =>
      obtain ⟨rfl, -⟩ := List.cons.inj split
      rw [plain next List.mem_cons_self] at joined
      cases joined first
  · refine ⟨c :: word, blanks, rfl, ?_, blank⟩
    exact List.forall_mem_cons.mpr ⟨Bool.eq_false_iff.mpr first, plain⟩

theorem isChunk_attach (c : Char) (each : ∀ part ∈ parts, IsChunk part) :
    ∀ part ∈ attach c parts, IsChunk part := by
  match parts with
  | [] => exact List.forall_mem_singleton.mpr (isChunk_singleton c)
  | [] :: rest =>
    exact List.forall_mem_cons.mpr ⟨isChunk_singleton c, (List.forall_mem_cons.mp each).2⟩
  | (next :: chunk) :: rest =>
    rw [attach]
    split
    next starts => exact List.forall_mem_cons.mpr ⟨isChunk_singleton c, each⟩
    next joined =>
      obtain ⟨first, others⟩ := List.forall_mem_cons.mp each
      exact List.forall_mem_cons.mpr ⟨first.cons (by simpa using joined), others⟩

theorem separated_attach (c : Char) (separated : Separated parts) : Separated (attach c parts) := by
  match parts with
  | [] => trivial
  | [[]] => trivial
  | [] :: next :: rest =>
    obtain ⟨front, x, empty, -⟩ := separated.1
    simp at empty
  | (next :: chunk) :: rest =>
    rw [attach]
    split
    next starts =>
      exact ⟨⟨[], c, rfl, by simp only [Bool.and_eq_true] at starts; exact starts.1⟩, separated⟩
    next joined =>
      cases rest with
      | nil => trivial
      | cons other rest => exact ⟨separated.1.append [c], separated.2⟩

theorem isChunk_parts (cs : List Char) : ∀ part ∈ cs.foldr attach [], IsChunk part := by
  induction cs with
  | nil => exact fun part member => by cases member
  | cons c rest ih => exact isChunk_attach c ih

theorem separated_parts (cs : List Char) : Separated (cs.foldr attach []) := by
  induction cs with
  | nil => trivial
  | cons c rest ih => exact separated_attach c ih

theorem separated_joinMargin (separated : Separated parts) : Separated (joinMargin parts) := by
  match parts with
  | [] => trivial
  | [_] => trivial
  | margin :: chunk :: rest =>
    rw [joinMargin]
    split
    next blank =>
      cases rest with
      | nil => trivial
      | cons next rest => exact ⟨separated.2.1.append margin, separated.2.2⟩
    next => exact separated

theorem separated_chunks (cs : List Char) : Separated (chunks cs) :=
  separated_joinMargin (separated_parts cs)

theorem words_chunks (cs : List Char) : (chunks cs).flatMap words = words cs := by
  rw [← (separated_chunks cs).words_flatten, flatten_chunks]

theorem words_parts (cs : List Char) : (cs.foldr attach []).flatMap words = words cs := by
  rw [← (separated_parts cs).words_flatten, flatten_parts]

theorem length_trimEnd_part_le (each : ∀ word ∈ words cs, word.length ≤ width) :
    ∀ part ∈ cs.foldr attach [], (trimEnd part).length ≤ width := by
  intro part member
  by_cases none : trimEnd part = []
  · rw [none]
    exact Nat.zero_le width
  · have own := words_of_isChunk (isChunk_parts cs part member)
    rw [if_neg none] at own
    refine each _ ?_
    rw [← words_parts cs]
    exact List.mem_flatMap.mpr ⟨part, member, by rw [own]; exact List.mem_cons_self⟩

theorem length_trimEnd_margin_le {margin chunk : List Char} {rest : List (List Char)}
    (fits : Fits width cs) (split : cs.foldr attach [] = margin :: chunk :: rest)
    (blank : ∀ c ∈ margin, isBlank c = true) : (trimEnd (margin ++ chunk)).length ≤ width := by
  have own := words_of_isChunk (isChunk_parts cs chunk (by simp [split]))
  by_cases none : trimEnd chunk = []
  · obtain ⟨blanks, only, others⟩ := exists_blanks chunk
    have nothing : trimEnd margin = [] := List.rdropWhile_eq_nil_iff.mpr blank
    rw [none, List.nil_append] at only
    rw [only, trimEnd_append_blanks others, nothing]
    exact Nat.zero_le width
  · rw [if_neg none] at own
    have head : (words cs).head? = some (trimEnd chunk) := by
      rw [← words_parts cs, split, List.flatMap_cons, List.flatMap_cons, words_of_blank blank, own]
      rfl
    have whole : cs = margin ++ (chunk ++ rest.flatten) := by
      rw [← flatten_parts cs, split, List.flatten_cons, List.flatten_cons]
    have start : margin.length ≤ (cs.takeWhile isBlank).length := by
      rw [whole, List.takeWhile_append_of_pos blank, List.length_append]
      exact Nat.le_add_right _ _
    have room := fits.first _ (Option.mem_def.mpr head)
    have joined := length_trimEnd_append_le margin chunk
    omega

theorem length_trimEnd_chunk_le (fits : Fits width cs) :
    ∀ chunk ∈ chunks cs, (trimEnd chunk).length ≤ width := by
  have each := length_trimEnd_part_le fits.each
  obtain ⟨parts, found⟩ : ∃ parts, cs.foldr attach [] = parts := ⟨_, rfl⟩
  rw [chunks, found]
  rw [found] at each
  rcases parts with _ | ⟨margin, _ | ⟨chunk, rest⟩⟩
  · exact each
  · exact each
  · rw [joinMargin]
    split
    next blank =>
      have first := length_trimEnd_margin_le fits found (List.all_eq_true.mp blank)
      have others := (List.forall_mem_cons.mp (List.forall_mem_cons.mp each).2).2
      exact List.forall_mem_cons.mpr ⟨first, others⟩
    next => exact each

theorem words_fill (width : Nat) (starts : parts ≠ [] → line = [] ∨ EndsBlank line)
    (separated : Separated parts) :
    (fill .cut width line parts).flatMap words = words line ++ parts.flatMap words := by
  induction parts generalizing line with
  | nil => simp [fill]
  | cons chunk rest ih =>
    have later : rest ≠ [] → EndsBlank chunk := by
      intro others
      cases rest with
      | nil => exact absurd rfl others
      | cons next rest => exact separated.1
    have joined : words (line ++ chunk) = words line ++ words chunk := by
      rcases starts (List.cons_ne_nil chunk rest) with rfl | ends
      · rfl
      · exact ends.words_append chunk
    -- the line goes on, or it ends behind a blank and the chunk begins the next one
    rw [fill]
    split
    · rw [ih (fun others => .inr ((later others).append line)) separated.tail, joined,
        List.flatMap_cons, List.append_assoc]
    · rw [List.flatMap_append, List.flatMap_append, Overflow.broken,
        ih (fun others => .inr (later others)) separated.tail, List.flatMap_cons]
      cases line <;> simp [words]

theorem length_trimEnd_fill_le (started : (trimEnd line).length ≤ width)
    (each : ∀ chunk ∈ parts, (trimEnd chunk).length ≤ width) :
    ∀ filled ∈ fill .cut width line parts, (trimEnd filled).length ≤ width := by
  induction parts generalizing line with
  | nil => exact List.forall_mem_singleton.mpr started
  | cons chunk rest ih =>
    obtain ⟨first, others⟩ := List.forall_mem_cons.mp each
    rw [fill]
    split
    next room => exact ih ((length_trimEnd_append_le line chunk).trans room) others
    next =>
      intro filled member
      rcases List.mem_append.mp member with before | after
      · cases line with
        | nil => simp at before
        | cons c line =>
          obtain rfl : filled = c :: line := by simpa [Overflow.broken] using before
          exact started
      · exact ih first others filled after

theorem fill_of_room (room : line.length + parts.flatten.length ≤ width) :
    fill .cut width line parts = [line ++ parts.flatten] := by
  induction parts generalizing line with
  | nil => simp [fill]
  | cons chunk rest ih =>
    rw [List.flatten_cons, List.length_append] at room
    have short := length_trimEnd_le chunk
    rw [fill, if_pos (by omega), ih (by rw [List.length_append]; omega), List.flatten_cons,
      List.append_assoc]

theorem fill_ne_nil (overflow : Overflow) (width : Nat) (line : List Char)
    (parts : List (List Char)) : fill overflow width line parts ≠ [] := by
  induction parts generalizing line with
  | nil => exact List.cons_ne_nil line []
  | cons chunk rest ih =>
    rw [fill]
    split
    · exact ih (line ++ chunk)
    · exact List.append_ne_nil_of_right_ne_nil _ (ih _)

theorem cut_of_le (room : line.length ≤ width) : cut width line = line := if_pos room

section Wrap

variable {s : String}

theorem wrap_of_fits (single : '\n' ∉ s.toList) (fits : Fits width s.toList) :
    wrap .cut width s = (fill .cut width [] (chunks s.toList)).map trimEnd := by
  have whole := Text.splitAtEach_of_not_mem single
  rw [wrap, whole, List.flatMap_singleton]
  refine List.map_congr_left fun filled member => ?_
  exact cut_of_le (length_trimEnd_fill_le (Nat.zero_le width) (length_trimEnd_chunk_le fits) filled
    member)

theorem wrap_ne_nil (single : '\n' ∉ s.toList) (overflow : Overflow) (width : Nat) :
    wrap overflow width s ≠ [] := by
  rw [wrap, Text.splitAtEach_of_not_mem single, List.flatMap_singleton]
  exact fun empty => fill_ne_nil _ _ _ _ (List.map_eq_nil_iff.mp empty)

/-- The lines have the words of the text in their order, and fit. -/
theorem words_wrap (single : '\n' ∉ s.toList) (fits : Fits width s.toList) :
    (wrap .cut width s).flatMap words = words s.toList ∧
      ∀ line ∈ wrap .cut width s, line.length ≤ width ∧ trimEnd line = line := by
  rw [wrap_of_fits single fits]
  constructor
  · have kept := words_fill width (fun _ => .inl rfl) (separated_chunks s.toList)
    rw [List.flatMap_map]
    simp only [words_trimEnd]
    rw [kept, words_chunks]
    rfl
  · intro line member
    obtain ⟨filled, given, rfl⟩ := List.mem_map.mp member
    exact ⟨length_trimEnd_fill_le (Nat.zero_le width) (length_trimEnd_chunk_le fits) filled given,
      trimEnd_trimEnd filled⟩

theorem wrap_of_room (single : '\n' ∉ s.toList) (room : s.toList.length ≤ width) :
    wrap .cut width s = [trimEnd s.toList] := by
  have whole := Text.splitAtEach_of_not_mem single
  have short := (length_trimEnd_le s.toList).trans room
  rw [wrap, whole, List.flatMap_singleton, fill_of_room (by simpa [flatten_chunks] using room),
    flatten_chunks, List.nil_append, List.map_singleton, cut_of_le short]

end Wrap

end Handover.Grid

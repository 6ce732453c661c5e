import Handover.Grid.Layout
import Handover.Proofs.Grid.Wrap

/-!
Pictures of tables, read back. Where the last column has room for its words, all lines of the frame
are equally long. A row shows its cells whole on its first line, and the words of its last cell down
to its last line.
-/

namespace Handover.Grid

/-- The cells of a line without the blanks after them, if it has cells of these widths. -/
def cells? (border : Char) : (widths : List Nat) → (line : List Char) → Option (List (List Char))
  | [], line => if line = [border] then some [] else none
  | width :: widths, c :: ' ' :: rest =>
    match rest.drop width with
    | ' ' :: others =>
      if c = border then (cells? border widths others).map (trimEnd (rest.take width) :: ·)
      else none
    | _ => none
  | _, _ => none

/-- These lines show all cells of a row. The last cell goes on on lines of its own, word by word. -/
def Shows (border : Char) (widths : List Nat) (row lines : List String) : Prop :=
  ∃ part parts,
    lines.map (fun line => cells? border widths line.toList) =
      some (row.dropLast.map (fun cell => trimEnd cell.toList) ++ [part]) ::
        parts.map (fun part => some (row.dropLast.map (fun _ => []) ++ [part])) ∧
    (part :: parts).flatMap words = words (row.getLastD "").toList

theorem Shows.words_single {border : Char} {widths : List Nat} {row : List String} {line : String}
    {cells : List (List Char)} (shows : Shows border widths row [line])
    (read : cells? border widths line.toList = some cells) :
    words (cells.getLastD []) = words (row.getLastD "").toList := by
  obtain ⟨part, parts, lines, kept⟩ := shows
  rw [List.map_singleton, read] at lines
  obtain ⟨first, others⟩ := List.cons.inj lines
  rw [List.map_eq_nil_iff.mp others.symm, List.flatMap_singleton] at kept
  rw [Option.some.inj first, List.getLastD_concat, kept]

section Lines

variable {cs : List Char} {width : Nat}

theorem length_padEnd (room : cs.length ≤ width) : (padEnd width cs).length = width := by
  rw [padEnd, List.length_append, List.length_replicate]
  omega

theorem trimEnd_padEnd (width : Nat) (cs : List Char) : trimEnd (padEnd width cs) = trimEnd cs := by
  refine trimEnd_append_blanks fun c member => ?_
  rw [List.eq_of_mem_replicate member]
  rfl

theorem toList_across (border : Char) (cells : List (Nat × List Char)) :
    (across border cells).toList =
      border :: cells.flatMap fun cell => ' ' :: padEnd cell.1 cell.2 ++ [' ', border] := by
  rw [across, String.toList_append, String.toList_join, List.flatMap_map]
  simp

theorem cells?_across (border : Char) {cells : List (Nat × List Char)}
    (room : ∀ cell ∈ cells, cell.2.length ≤ cell.1) :
    cells? border (cells.map (·.1)) (across border cells).toList =
      some (cells.map fun cell => trimEnd cell.2) := by
  rw [toList_across]
  induction cells with
  | nil => simp [cells?]
  | cons cell rest ih =>
    obtain ⟨first, others⟩ := List.forall_mem_cons.mp room
    have width := length_padEnd first
    simpa [cells?, width, trimEnd_padEnd] using ih others

theorem length_across (border : Char) {cells : List (Nat × List Char)}
    (room : ∀ cell ∈ cells, cell.2.length ≤ cell.1) :
    (across border cells).length = totalWidth (cells.map (·.1)) := by
  rw [← String.length_toList, toList_across]
  induction cells with
  | nil => rfl
  | cons cell rest ih =>
    obtain ⟨first, others⟩ := List.forall_mem_cons.mp room
    have later := ih others
    have width := length_padEnd first
    simp only [List.length_cons, List.flatMap_cons, List.length_append, List.cons_append,
      List.length_nil, width] at later ⊢
    simp only [totalWidth, List.map_cons, List.foldr_cons] at later ⊢
    omega

theorem length_strokes (stroke between : Char) {widths : List Nat} (some_column : widths ≠ []) :
    (String.intercalate (String.ofList [between]) (widths.map fun width =>
      String.ofList (List.replicate (width + 2) stroke))).length + 2 = totalWidth widths := by
  induction widths with
  | nil => exact absurd rfl some_column
  | cons width rest ih =>
    cases rest with
    | nil => simp [totalWidth]
    | cons next rest =>
      have later := ih (List.cons_ne_nil next rest)
      simp only [totalWidth, List.map_cons, List.foldr_cons, String.intercalate_cons_cons,
        String.length_append, String.length_ofList, List.length_replicate,
        List.length_singleton] at later ⊢
      omega

theorem length_ruler (left stroke between right : Char) {widths : List Nat}
    (some_column : widths ≠ []) :
    (ruler left stroke between right widths).length = totalWidth widths := by
  rw [ruler, String.length_append, String.length_append, String.length_ofList,
    String.length_ofList, List.length_singleton, List.length_singleton,
    ← length_strokes stroke between some_column]
  omega

end Lines

section Widths

theorem le_foldl_max {α : Type} (f : α → Nat) (xs : List α) (start : Nat) :
    start ≤ xs.foldl (fun most x => max most (f x)) start ∧
      ∀ x ∈ xs, f x ≤ xs.foldl (fun most x => max most (f x)) start := by
  induction xs generalizing start with
  | nil => exact ⟨Nat.le_refl start, fun x member => by cases member⟩
  | cons x rest ih =>
    obtain ⟨least, each⟩ := ih (max start (f x))
    refine ⟨(Nat.le_max_left _ _).trans least, ?_⟩
    exact List.forall_mem_cons.mpr ⟨(Nat.le_max_right _ _).trans least, each⟩

theorem foldl_max_of_le {α : Type} {f : α → Nat} {xs : List α} {start : Nat}
    (below : ∀ x ∈ xs, f x ≤ start) : xs.foldl (fun most x => max most (f x)) start = start := by
  induction xs with
  | nil => rfl
  | cons x rest ih =>
    obtain ⟨first, others⟩ := List.forall_mem_cons.mp below
    rw [List.foldl_cons, Nat.max_eq_left first, ih others]

theorem textWidth_of_single {s : String} (single : '\n' ∉ s.toList) :
    textWidth s = s.toList.length := by
  rw [textWidth, Text.splitAtEach_of_not_mem single]
  exact Nat.max_eq_right (Nat.zero_le _)

theorem Column.textWidth_le (c : Column) :
    ∀ text ∈ c.header :: c.cells, textWidth text ≤ c.naturalWidth := by
  obtain ⟨header, cells⟩ := le_foldl_max textWidth c.cells (textWidth c.header)
  exact List.forall_mem_cons.mpr ⟨header, cells⟩

theorem totalWidth_concat (front : List Nat) (last : Nat) :
    totalWidth (front ++ [last]) = totalWidth front + (last + 3) := by
  induction front with
  | nil => exact Nat.add_comm _ _
  | cons width rest ih =>
    simp only [totalWidth, List.cons_append, List.map_cons, List.foldr_cons] at ih ⊢
    omega

theorem fitLast_concat (console : Nat) (front : List Nat) (last : Nat) :
    fitLast console (front ++ [last]) =
      front ++ [last - (totalWidth (front ++ [last]) - console)] := by
  simp [fitLast]

/-- While the last column keeps some room, the table is as wide as it has to be, or as the console
where that is narrower. -/
theorem totalWidth_fitLast {console last : Nat} {front : List Nat}
    (room : 0 < last - (totalWidth (front ++ [last]) - console)) :
    totalWidth (fitLast console (front ++ [last])) =
      min (totalWidth (front ++ [last])) console := by
  rw [fitLast_concat, totalWidth_concat]
  rw [totalWidth_concat] at room ⊢
  omega

end Widths

section Rows

variable {front : List (Nat × String)} {width : Nat} {last : String} {part : List Char}
  {parts : List (List Char)}

theorem map_getD_range {α : Type} (xs : List α) (default : α) :
    (List.range xs.length).map (xs.getD · default) = xs := by
  refine List.ext_getElem (by simp) fun i before after => ?_
  simp [after]

theorem rowLines_eq (border : Char)
    (room : ∀ cell ∈ front, '\n' ∉ cell.2.toList ∧ cell.2.toList.length ≤ cell.1)
    (wrapped : wrap .cut width last = part :: parts) :
    rowLines border (front.map (·.1) ++ [width]) (front.map (·.2) ++ [last]) =
      across border (front.map (fun cell => (cell.1, trimEnd cell.2.toList)) ++ [(width, part)]) ::
        parts.map fun part =>
          across border (front.map (fun cell => (cell.1, [])) ++ [(width, part)]) := by
  have columns : ((front.map (·.1) ++ [width]).zip (front.map (·.2) ++ [last])).map
      (fun cell => (cell.1, wrap .cut cell.1 cell.2)) =
      front.map (fun cell => (cell.1, [trimEnd cell.2.toList])) ++ [(width, part :: parts)] := by
    rw [List.zip_append (by simp), List.zip_map', List.map_append, List.map_map]
    refine congrArg₂ (· ++ ·) (List.map_congr_left fun cell member => ?_) ?_
    · obtain ⟨single, fits⟩ := room cell member
      exact congrArg (Prod.mk cell.1) (wrap_of_room single fits)
    · exact congrArg (fun lines => [(width, lines)]) wrapped
  have one : (front.map fun cell => (cell.1, [trimEnd cell.2.toList])).foldl
      (fun height column => max height column.2.length) 1 = 1 := by
    refine foldl_max_of_le fun column member => ?_
    obtain ⟨cell, -, rfl⟩ := List.mem_map.mp member
    exact Nat.le_refl 1
  have height : (front.map (fun cell => (cell.1, [trimEnd cell.2.toList])) ++
      [(width, part :: parts)]).foldl (fun height column => max height column.2.length) 1 =
      parts.length + 1 := by
    rw [List.foldl_append, one]
    exact Nat.max_eq_right (Nat.le_add_left 1 parts.length)
  unfold rowLines
  simp only [columns, height]
  rw [List.range_succ_eq_map, List.map_cons, List.map_map]
  refine congrArg₂ List.cons ?_ ?_
  · rw [List.map_append, List.map_map]
    rfl
  · refine Eq.trans ?_ (congrArg (List.map _) (map_getD_range parts []))
    rw [List.map_map]
    refine List.map_congr_left fun i _ => ?_
    rw [Function.comp_apply, List.map_append, List.map_map]
    rfl

theorem reads_across (border : Char) (front : List (Nat × String))
    (shown : Nat × String → List Char)
    (room : ∀ cell ∈ front, (shown cell).length ≤ cell.1) (fits : part.length ≤ width)
    (trimmed : trimEnd part = part) :
    let line := across border (front.map (fun cell => (cell.1, shown cell)) ++ [(width, part)])
    cells? border (front.map (·.1) ++ [width]) line.toList =
        some (front.map (fun cell => trimEnd (shown cell)) ++ [part]) ∧
      line.length = totalWidth (front.map (·.1) ++ [width]) := by
  have each : ∀ cell ∈ front.map (fun cell => (cell.1, shown cell)) ++ [(width, part)],
      cell.2.length ≤ cell.1 := by
    intro cell member
    rcases List.mem_append.mp member with before | own
    · obtain ⟨given, listed, rfl⟩ := List.mem_map.mp before
      exact room given listed
    · obtain rfl := List.mem_singleton.mp own
      exact fits
  have widths : (front.map (fun cell => (cell.1, shown cell)) ++ [(width, part)]).map (·.1) =
      front.map (·.1) ++ [width] := by
    rw [List.map_append, List.map_map]
    rfl
  have read := cells?_across border each
  have length := length_across border each
  rw [widths] at read length
  refine ⟨read.trans ?_, length⟩
  rw [List.map_append, List.map_map, List.map_singleton, trimmed]
  rfl

theorem shows_rowLines (border : Char)
    (room : ∀ cell ∈ front, '\n' ∉ cell.2.toList ∧ cell.2.toList.length ≤ cell.1)
    (single : '\n' ∉ last.toList) (fits : Fits width last.toList) :
    let lines := rowLines border (front.map (·.1) ++ [width]) (front.map (·.2) ++ [last])
    Shows border (front.map (·.1) ++ [width]) (front.map (·.2) ++ [last]) lines ∧
      ∀ line ∈ lines, line.length = totalWidth (front.map (·.1) ++ [width]) := by
  obtain ⟨kept, each⟩ := words_wrap single fits
  obtain ⟨part, parts, wrapped⟩ := List.exists_cons_of_ne_nil (wrap_ne_nil single .cut width)
  rw [wrapped] at kept each
  obtain ⟨own, others⟩ := List.forall_mem_cons.mp each
  have first := reads_across border front (fun cell => trimEnd cell.2.toList)
    (fun cell member => (length_trimEnd_le _).trans (room cell member).2) own.1 own.2
  have later (part : List Char) (member : part ∈ parts) :=
    reads_across border front (fun _ => []) (fun _ _ => Nat.zero_le _) (others part member).1
      (others part member).2
  simp only [rowLines_eq border room wrapped]
  refine ⟨⟨part, parts, ?_, ?_⟩, ?_⟩
  · rw [List.dropLast_concat, List.map_cons, first.1, List.map_map, List.map_map, List.map_map]
    refine congrArg₂ List.cons ?_ (List.map_congr_left fun part member => ?_)
    · simp [trimEnd_trimEnd]
    · exact (later part member).1
  · simpa using kept
  · refine List.forall_mem_cons.mpr ⟨first.2, fun line member => ?_⟩
    obtain ⟨part, listed, rfl⟩ := List.mem_map.mp member
    exact (later part listed).2

end Rows

def framed (g : Grid) (console : Nat) : List String :=
  let widths := g.widths console
  [ruler '┏' '━' '┳' '┓' widths] ++ rowLines '┃' widths g.headers ++
    [ruler '┡' '━' '╇' '┩' widths] ++ g.rows.flatMap (rowLines '│' widths) ++
    [ruler '└' '─' '┴' '┘' widths]

/-- The picture shows everything, and its lines are even. Emoji that come into the title or the
caption may need more than one place, so the lines of these are told only where there are none. -/
structure Complete (g : Grid) (emoji? : String → Option String) (console : Nat) : Prop where
  picture : ∃ above below, g.picture emoji? console = above ++ g.framed console ++ below
  annotated : Text.withEmoji emoji? g.title = g.title →
    Text.withEmoji emoji? (g.caption.getD "") = g.caption.getD "" →
    g.picture emoji? console =
      annotation (totalWidth (g.widths console)) g.title ++ g.framed console ++
        annotation (totalWidth (g.widths console)) (g.caption.getD "")
  even : ∀ line ∈ g.framed console,
    line.length = min (totalWidth (g.columns.map Column.naturalWidth)) console
  headed : Shows '┃' (g.widths console) g.headers (rowLines '┃' (g.widths console) g.headers)
  shown : ∀ row ∈ g.rows, Shows '│' (g.widths console) row (rowLines '│' (g.widths console) row)

/-- All rows are as long as the line of names, and no cell holds a line break. -/
structure Regular (g : Grid) : Prop where
  named : words (g.headers.getLastD "").toList ≠ []
  even : ∀ row ∈ g.headers :: g.rows, row.length = g.headers.length
  single : ∀ row ∈ g.headers :: g.rows, ∀ cell ∈ row, '\n' ∉ cell.toList

/-- No text of the table itself has the code of an emoji in it. -/
def Plain (g : Grid) (emoji? : String → Option String) : Prop :=
  ∀ row ∈ g.headers :: g.rows, ∀ cell ∈ row, Text.withEmoji emoji? cell = cell

/-- The last column has room for the words of all its texts. -/
def HasRoom (g : Grid) (console : Nat) : Prop :=
  ∀ row ∈ g.headers :: g.rows, Fits ((g.widths console).getLastD 0) (row.getLastD "").toList

instance (g : Grid) (console : Nat) : Decidable (g.HasRoom console) :=
  List.decidableBAll (fun row : List String =>
    Fits ((g.widths console).getLastD 0) (row.getLastD "").toList) (g.headers :: g.rows)

section Complete

variable {g : Grid} {emoji? : String → Option String} {row : List String} {console : Nat}

def columnAt (g : Grid) (i : Nat) : Column where
  header := g.headers.getD i ""
  wraps := decide (g.headers.length ≤ i + 1)
  cells := g.rows.map (·.getD i "")

theorem Regular.columns_eq (regular : g.Regular) :
    g.columns = (List.range g.headers.length).map g.columnAt := by
  have count : g.columnCount = g.headers.length := by
    refine foldl_max_of_le fun row member => ?_
    exact (regular.even row (List.mem_cons_of_mem _ member)).le
  rw [columns, count]
  rfl

theorem Regular.fits_column (regular : g.Regular) (listed : row ∈ g.headers :: g.rows) (i : Nat) :
    '\n' ∉ (row.getD i "").toList ∧
      (row.getD i "").toList.length ≤ (g.columnAt i).naturalWidth := by
  have single : '\n' ∉ (row.getD i "").toList := by
    rw [List.getD_eq_getElem?_getD]
    cases found : row[i]? with
    | none => simp
    | some cell => exact regular.single row listed cell (List.mem_of_getElem? found)
  refine ⟨single, ?_⟩
  rw [← textWidth_of_single single]
  refine (g.columnAt i).textWidth_le _ ?_
  rcases List.mem_cons.mp listed with rfl | member
  · exact List.mem_cons_self
  · exact List.mem_cons_of_mem _ (List.mem_map.mpr ⟨row, member, rfl⟩)

theorem Regular.exists_width (regular : g.Regular) {before : Nat}
    (count : g.headers.length = before + 1) (console : Nat) :
    ∃ width, g.widths console =
        (List.range before).map (fun i => (g.columnAt i).naturalWidth) ++ [width] ∧
      (0 < width → totalWidth (g.widths console) =
        min (totalWidth (g.columns.map Column.naturalWidth)) console) := by
  have natural : g.columns.map Column.naturalWidth =
      (List.range before).map (fun i => (g.columnAt i).naturalWidth) ++
        [(g.columnAt before).naturalWidth] := by
    rw [regular.columns_eq, count, List.range_succ, List.map_append, List.map_append, List.map_map]
    rfl
  rw [widths, natural, fitLast_concat]
  refine ⟨_, rfl, fun room => ?_⟩
  rw [← totalWidth_fitLast room, fitLast_concat]

def frontCells (g : Grid) (before : Nat) (row : List String) : List (Nat × String) :=
  (List.range before).map fun i => ((g.columnAt i).naturalWidth, row.getD i "")

theorem getD_last {before : Nat} (long : row.length = before + 1) :
    row.getD before "" = row.getLastD "" := by
  rw [List.getLastD_eq_getLast?, List.getLast?_eq_getElem?, long, List.getD_eq_getElem?_getD]
  rfl

theorem eq_frontCells {before : Nat} (long : row.length = before + 1) :
    row = (g.frontCells before row).map (·.2) ++ [row.getLastD ""] := by
  have whole := map_getD_range row ""
  rw [long, List.range_succ, List.map_append, List.map_singleton, getD_last long] at whole
  refine whole.symm.trans ?_
  rw [frontCells, List.map_map]
  rfl

theorem Regular.exists_before (regular : g.Regular) : ∃ before, g.headers.length = before + 1 := by
  refine Nat.exists_eq_add_one_of_ne_zero fun none => regular.named ?_
  rw [List.eq_nil_of_length_eq_zero none]
  rfl

theorem Regular.shows_of_room (regular : g.Regular) (room : g.HasRoom console)
    (listed : row ∈ g.headers :: g.rows) (border : Char) :
    let lines := rowLines border (g.widths console) row
    Shows border (g.widths console) row lines ∧
      ∀ line ∈ lines, line.length = totalWidth (g.widths console) := by
  obtain ⟨before, count⟩ := regular.exists_before
  obtain ⟨width, widths, -⟩ := regular.exists_width count console
  have long := (regular.even row listed).trans count
  have fits := room row listed
  rw [widths, List.getLastD_concat] at fits
  have each : ∀ cell ∈ g.frontCells before row,
      '\n' ∉ cell.2.toList ∧ cell.2.toList.length ≤ cell.1 := by
    intro cell member
    obtain ⟨i, -, rfl⟩ := List.mem_map.mp member
    exact regular.fits_column listed i
  have single := (regular.fits_column listed before).1
  rw [getD_last long] at single
  have front : (g.frontCells before row).map (·.1) =
      (List.range before).map fun i => (g.columnAt i).naturalWidth := by
    rw [frontCells, List.map_map]
    rfl
  have shows := shows_rowLines border each single fits
  rwa [← eq_frontCells long, front, ← widths] at shows

theorem Regular.totalWidth_of_room (regular : g.Regular) (room : g.HasRoom console) :
    totalWidth (g.widths console) =
      min (totalWidth (g.columns.map Column.naturalWidth)) console := by
  obtain ⟨before, count⟩ := regular.exists_before
  obtain ⟨width, widths, total⟩ := regular.exists_width count console
  refine total ?_
  -- the name of the last column takes some room
  obtain ⟨word, some_word⟩ := List.exists_mem_of_ne_nil _ regular.named
  have fits := (room g.headers List.mem_cons_self).each word some_word
  rw [widths, List.getLastD_concat] at fits
  exact (List.length_pos_of_ne_nil (ne_nil_of_mem_words some_word)).trans_le fits

theorem Regular.drawing_eq (regular : g.Regular) (console : Nat) :
    g.drawing console = annotation (totalWidth (g.widths console)) g.title ++ g.framed console ++
      annotation (totalWidth (g.widths console)) (g.caption.getD "") := by
  obtain ⟨before, count⟩ := regular.exists_before
  obtain ⟨width, widths, -⟩ := regular.exists_width count console
  have cells : ∀ row ∈ g.headers :: g.rows,
      (List.range (g.widths console).length).map (row.getD · "") = row := by
    intro row listed
    have long : (g.widths console).length = row.length := by
      rw [widths, regular.even row listed, count]
      simp
    rw [long, map_getD_range]
  have rows : g.rows.flatMap (fun row => rowLines '│' (g.widths console)
      ((List.range (g.widths console).length).map (row.getD · ""))) =
      g.rows.flatMap (rowLines '│' (g.widths console)) := by
    refine List.flatMap_congr fun row listed => ?_
    rw [cells row (List.mem_cons_of_mem _ listed)]
  simp only [drawing, framed, cells g.headers List.mem_cons_self, rows, List.append_assoc]

theorem Plain.withEmoji_eq (plain : g.Plain emoji?) :
    g.withEmoji emoji? = { g with
      title := Text.withEmoji emoji? g.title
      caption := g.caption.map (Text.withEmoji emoji?) } := by
  have kept (row : List String) (listed : row ∈ g.headers :: g.rows) :
      row.map (Text.withEmoji emoji?) = row :=
    (List.map_congr_left (plain row listed)).trans (List.map_id' row)
  have rows : g.rows.map (fun row => row.map (Text.withEmoji emoji?)) = g.rows :=
    (List.map_congr_left fun row listed => kept row (List.mem_cons_of_mem _ listed)).trans
      (List.map_id' g.rows)
  simp only [withEmoji, kept g.headers List.mem_cons_self, rows]

theorem Regular.picture_of_plain (regular : g.Regular) (plain : g.Plain emoji?) (console : Nat) :
    g.picture emoji? console =
      annotation (totalWidth (g.widths console)) (Text.withEmoji emoji? g.title) ++
        g.framed console ++
        annotation (totalWidth (g.widths console)) (Text.withEmoji emoji? (g.caption.getD "")) := by
  let shown : Grid := { g with
    title := Text.withEmoji emoji? g.title
    caption := g.caption.map (Text.withEmoji emoji?) }
  have drawn := Regular.drawing_eq (g := shown) ⟨regular.named, regular.even, regular.single⟩
    console
  have caption : shown.caption.getD "" = Text.withEmoji emoji? (g.caption.getD "") := by
    change (g.caption.map _).getD "" = _
    cases g.caption <;> rfl
  rw [picture, plain.withEmoji_eq]
  rw [caption] at drawn
  exact drawn

/-- Where the last column has room for the words of its texts, the picture is complete. -/
theorem Regular.complete_of_room (regular : g.Regular) (plain : g.Plain emoji?)
    (room : g.HasRoom console) : g.Complete emoji? console := by
  have total := regular.totalWidth_of_room room
  have ruled (left stroke between right : Char) :
      (ruler left stroke between right (g.widths console)).length =
        totalWidth (g.widths console) := by
    obtain ⟨before, count⟩ := regular.exists_before
    obtain ⟨width, widths, -⟩ := regular.exists_width count console
    exact length_ruler left stroke between right (by simp [widths])
  have headed := regular.shows_of_room room List.mem_cons_self '┃'
  have shown (row : List String) (listed : row ∈ g.rows) :=
    regular.shows_of_room room (List.mem_cons_of_mem g.headers listed) '│'
  have picture := regular.picture_of_plain plain console
  refine ⟨⟨_, _, picture⟩, ?_, ?_, headed.1, fun row listed => (shown row listed).1⟩
  · intro title caption
    rw [picture, title, caption]
  · intro line member
    rw [← total]
    simp only [framed, List.mem_append, List.mem_singleton, List.mem_flatMap] at member
    rcases member with (((rfl | header) | rfl) | ⟨row, listed, own⟩) | rfl
    · exact ruled _ _ _ _
    · exact headed.2 line header
    · exact ruled _ _ _ _
    · exact (shown row listed).2 line own
    · exact ruled _ _ _ _

end Complete

end Handover.Grid

import Handover.Grid.Basic
import Handover.Grid.Wrap
import Handover.Text.Emoji

/-!
The picture of a table on a console. A column is as wide as its widest text. Where all columns
together are too wide, the last one gives way and wraps. Every character counts one place.
-/

namespace Handover.Grid

def textWidth (s : String) : Nat :=
  (Text.splitAtEach '\n' s.toList).foldl (fun width line => max width line.length) 0

namespace Column

def naturalWidth (c : Column) : Nat :=
  c.cells.foldl (fun width cell => max width (textWidth cell)) (textWidth c.header)

end Column

/-- Each column has a blank on either side, and a border before it. One more border ends the row. -/
def totalWidth (widths : List Nat) : Nat := (widths.map (· + 3)).foldr (· + ·) 1

/-- Takes from the last column what the others leave too little room for. -/
def fitLast (console : Nat) (widths : List Nat) : List Nat :=
  let excess := totalWidth widths - console
  match widths.getLast? with
  | some last => widths.dropLast ++ [last - excess]
  | none => []

def padEnd (width : Nat) (cs : List Char) : List Char :=
  cs ++ List.replicate (width - cs.length) ' '

def centre (width : Nat) (cs : List Char) : String :=
  let left := (width - cs.length) / 2
  String.ofList (padEnd width (List.replicate left ' ' ++ cs))

/-- A line of the frame: its left end, the stroke, what stands between columns, its right end. -/
def ruler (left stroke between right : Char) (widths : List Nat) : String :=
  let strokes := widths.map fun width => String.ofList (List.replicate (width + 2) stroke)
  String.ofList [left] ++ String.intercalate (String.ofList [between]) strokes ++
    String.ofList [right]

def across (border : Char) (cells : List (Nat × List Char)) : String :=
  let edge := String.ofList [border]
  edge ++ String.join (cells.map fun (width, cell) =>
    " " ++ String.ofList (padEnd width cell) ++ " " ++ edge)

def rowLines (border : Char) (widths : List Nat) (cells : List String) : List String :=
  let columns := (widths.zip cells).map fun (width, cell) => (width, wrap .cut width cell)
  let height := columns.foldl (fun height (_, column) => max height column.length) 1
  (List.range height).map fun i =>
    across border (columns.map fun (width, column) => (width, column.getD i []))

def annotation (width : Nat) (s : String) : List String :=
  if s.isEmpty then [] else (wrap .fold width s).map (centre width)

def widths (g : Grid) (console : Nat) : List Nat :=
  fitLast console (g.columns.map Column.naturalWidth)

def withEmoji (emoji? : String → Option String) (g : Grid) : Grid :=
  let shown := Text.withEmoji emoji?
  { g with
    title := shown g.title
    caption := g.caption.map shown
    headers := g.headers.map shown
    rows := g.rows.map fun row => row.map shown }

def drawing (g : Grid) (console : Nat) : List String :=
  let widths := g.widths console
  let cells (row : List String) := (List.range widths.length).map fun i => row.getD i ""
  annotation (totalWidth widths) g.title ++
    [ruler '┏' '━' '┳' '┓' widths] ++
    rowLines '┃' widths (cells g.headers) ++
    [ruler '┡' '━' '╇' '┩' widths] ++
    g.rows.flatMap (fun row => rowLines '│' widths (cells row)) ++
    [ruler '└' '─' '┴' '┘' widths] ++
    annotation (totalWidth widths) (g.caption.getD "")

def picture (g : Grid) (emoji? : String → Option String) (console : Nat) : List String :=
  (g.withEmoji emoji?).drawing console

end Handover.Grid

/-!
Tables of text with a title, a caption and a style. Only the last of the named columns may wrap.
-/

namespace Handover

structure Palette where
  border : String := "cyan"
  header : String := "bold cyan"
  alternateRow : String := "dim"

structure Grid where
  title : String
  caption : Option String
  headers : List String
  rows : List (List String)
  palette : Palette := {}

structure Grid.Column where
  header : String
  wraps : Bool
  cells : List String

namespace Grid

/-- A row may be longer than the header line. The columns it adds have no name. -/
def columnCount (g : Grid) : Nat :=
  g.rows.foldl (fun count row => max count row.length) g.headers.length

/-- A row that is too short is filled up with empty cells. -/
def columns (g : Grid) : List Column :=
  (List.range g.columnCount).map fun i => {
    header := g.headers.getD i ""
    wraps := decide (g.headers.length ≤ i + 1)
    cells := g.rows.map (·.getD i "") }

def rowStyles (g : Grid) : List String := ["", g.palette.alternateRow]

end Grid

end Handover

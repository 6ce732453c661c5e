import Handover.Text.Blank
import Handover.Text.Split

/-!
Word wrap. A text falls into chunks, each a word with the blanks after it. A line takes chunks as
long as their words fit. A word is kept whole unless it is wider than a line.
-/

namespace Handover.Grid

def attach (c : Char) : List (List Char) → List (List Char)
  | [] => [[c]]
  | [] :: chunks => [c] :: chunks
  | (next :: chunk) :: chunks =>
    if Text.isBlank c && !Text.isBlank next then [c] :: (next :: chunk) :: chunks
    else (c :: next :: chunk) :: chunks

/-- Blanks at the very start belong to the first word. -/
def joinMargin : List (List Char) → List (List Char)
  | margin :: chunk :: chunks =>
    if margin.all Text.isBlank then (margin ++ chunk) :: chunks else margin :: chunk :: chunks
  | chunks => chunks

def chunks (cs : List Char) : List (List Char) := joinMargin (cs.foldr attach [])

def trimEnd (cs : List Char) : List Char := (cs.reverse.dropWhile Text.isBlank).reverse

inductive Overflow where
  | cut
  | fold

def Overflow.broken (overflow : Overflow) (width : Nat) (chunk : List Char) :
    List (List Char) × List Char :=
  match overflow with
  | .cut => ([], chunk)
  | .fold =>
    if (trimEnd chunk).length ≤ width then ([], chunk)
    else
      let count := (chunk.length - 1) / width
      ((List.range count).map fun i => (chunk.drop (i * width)).take width,
        chunk.drop (count * width))

def fill (overflow : Overflow) (width : Nat) (line : List Char) :
    List (List Char) → List (List Char)
  | [] => [line]
  | chunk :: rest =>
    if line.length + (trimEnd chunk).length ≤ width then
      fill overflow width (line ++ chunk) rest
    else
      let (full, last) := overflow.broken width chunk
      (if line.isEmpty then [] else [line]) ++ full ++ fill overflow width last rest

def cut (width : Nat) (line : List Char) : List Char :=
  if line.length ≤ width then line else line.take (width - 1) ++ ['…']

def wrap (overflow : Overflow) (width : Nat) (s : String) : List (List Char) :=
  (Text.splitAtEach '\n' s.toList).flatMap fun line =>
    (fill overflow width [] (chunks line)).map fun filled => cut width (trimEnd filled)

theorem flatten_attach (c : Char) (parts : List (List Char)) :
    (attach c parts).flatten = c :: parts.flatten := by
  match parts with
  | [] => rfl
  | [] :: _ => simp [attach]
  | (next :: _) :: _ => simp only [attach]; split <;> simp

theorem flatten_parts (cs : List Char) : (cs.foldr attach []).flatten = cs := by
  induction cs with
  | nil => rfl
  | cons c rest ih => rw [List.foldr_cons, flatten_attach, ih]

theorem flatten_chunks (cs : List Char) : (chunks cs).flatten = cs := by
  have joined (parts : List (List Char)) : (joinMargin parts).flatten = parts.flatten := by
    match parts with
    | [] => rfl
    | [_] => rfl
    | margin :: _ :: _ => simp only [joinMargin]; split <;> simp
  rw [chunks, joined, flatten_parts]

end Handover.Grid

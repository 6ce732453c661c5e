/-!
Terminal control sequences: an escape character, a square bracket, parameters and a letter. Text
that goes anywhere but to a terminal is written without them.
-/

namespace Handover.Text

def isParameter (c : Char) : Bool :=
  c == ';' || c == '?' || c.isDigit

def sequenceLength? : List Char → Option Nat
  | '[' :: rest =>
    match rest.dropWhile isParameter with
    | c :: _ => if c.isAlpha then some ((rest.takeWhile isParameter).length + 2) else none
    | [] => none
  | _ => none

/-- Drops the next `pending` characters, and from there on every control sequence. -/
def dropSequences : (pending : Nat) → List Char → List Char
  | _, [] => []
  | pending + 1, _ :: rest => dropSequences pending rest
  | 0, c :: rest =>
    match if c = '\x1b' then sequenceLength? rest else none with
    | some length => dropSequences length rest
    | none => c :: dropSequences 0 rest

def withoutSequences (s : String) : String :=
  String.ofList (dropSequences 0 s.toList)

theorem dropSequences_eq_self {cs : List Char} (none_escape : '\x1b' ∉ cs) :
    dropSequences 0 cs = cs := by
  induction cs with
  | nil => rfl
  | cons c rest ih =>
    have different : c ≠ '\x1b' := fun same => none_escape (same ▸ List.mem_cons_self)
    simp [dropSequences, different, ih fun member => none_escape (List.mem_cons_of_mem _ member)]

theorem withoutSequences_eq_self {s : String} (none_escape : '\x1b' ∉ s.toList) :
    withoutSequences s = s := by
  rw [withoutSequences, dropSequences_eq_self none_escape, String.ofList_toList]

inductive Colour where
  | yellow
  | red

def Colour.sequence : Colour → String
  | .yellow => "\x1b[33m"
  | .red => "\x1b[31m"

def painted (colour : Colour) (s : String) : String :=
  colour.sequence ++ s ++ "\x1b[0m"

end Handover.Text

import Handover.Text.Split

/-! File paths as texts, and their parts. -/

namespace Handover.Path

def isAbsolute (path : String) : Bool := path.toList.head? == some '/'

def parts (path : String) : List String :=
  (Text.splitAtEach '/' path.toList).map String.ofList

/-- What an absolute path starts with. Exactly two slashes have a meaning of their own, any other
number is one. -/
def root (path : String) : String :=
  match (path.toList.takeWhile (· == '/')).length with
  | 0 => ""
  | 2 => "//"
  | _ => "/"

/-- The path without empty and `.` parts. A part `..` stays, since what it means depends on the
directory before it. -/
def normal (path : String) : String :=
  let kept := (parts path).filter fun part => part != "" && part != "."
  let joined := root path ++ String.intercalate "/" kept
  if joined.isEmpty then "." else joined

end Handover.Path

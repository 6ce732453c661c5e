import Handover.Text.Quoted
import Handover.World.Path

/-! A file system: directories and regular files, each under the list of names that leads to it. -/

namespace Handover

inductive FileEntry where
  | directory
  | file (content : ByteArray) (executable : Bool)

inductive FileError where
  | noSuchFile
  | notADirectory
  | isADirectory
  | permissionDenied
  | other (number : Nat) (description : String)
  deriving DecidableEq

namespace FileError

def number : FileError → Nat
  | .noSuchFile => 2
  | .notADirectory => 20
  | .isADirectory => 21
  | .permissionDenied => 13
  | .other number _ => number

def description : FileError → String
  | .noSuchFile => "No such file or directory"
  | .notADirectory => "Not a directory"
  | .isADirectory => "Is a directory"
  | .permissionDenied => "Permission denied"
  | .other _ description => description

def message (error : FileError) (path : String) : String :=
  "[Errno " ++ Nat.repr error.number ++ "] " ++ error.description ++ ": " ++ Text.quoted path

/-- Nothing is there, or nothing that could be followed. Other errors leave that open. -/
def isAbsence (error : FileError) : Bool := [2, 20, 9, 40].contains error.number

end FileError

structure Files where
  entries : List (List String × FileEntry) := []

namespace Files

/-- The entry at a place. The root directory always exists. -/
def entry? (fs : Files) (place : List String) : Option FileEntry :=
  if place.isEmpty then some .directory else fs.entries.lookup place

def missingParents (fs : Files) (place : List String) : List (List String) :=
  ((List.range place.length).map place.take).filter fun parent => (fs.entry? parent).isNone

def write (fs : Files) (place : List String) (entry : FileEntry) : Files where
  entries := (place, entry) :: (fs.missingParents place).map (·, .directory) ++
    fs.entries.filter (·.1 != place)

def remove (fs : Files) (place : List String) : Files where
  entries := fs.entries.filter fun (other, _) => !place.isPrefixOf other

def follow (fs : Files) (place : List String) : List String → Except FileError (List String)
  | [] => .ok place
  | part :: rest =>
    match fs.entry? place with
    | some .directory =>
      if part = "" ∨ part = "." then fs.follow place rest
      else if part = ".." then fs.follow place.dropLast rest
      else if (fs.entry? (place ++ [part])).isNone then .error .noSuchFile
      else fs.follow (place ++ [part]) rest
    | _ => .error .notADirectory

def find (fs : Files) (here : List String) (path : String) : Except FileError FileEntry :=
  if path.isEmpty ∨ path.toList.contains '\x00' then .error .noSuchFile
  else
    match fs.follow (if Path.isAbsolute path then [] else here) (Path.parts path) with
    | .ok place =>
      match fs.entry? place with
      | some entry => .ok entry
      | none => .error .noSuchFile
    | .error error => .error error

def placeOf (here : List String) (path : String) : List String :=
  (if Path.isAbsolute path then [] else here) ++
    (Path.parts path).filter fun part => part != "" && part != "."

end Files

end Handover

import Handover.Text.Given
import Handover.World.Child
import Handover.World.Files
import Handover.Yaml.Document

/-! What an invocation finds around it. -/

namespace Handover

abbrev Environment := List (String × String)

inductive Access where
  | look
  | read

structure World where
  files : Files := {}
  /-- Why the operating system refuses what it is asked, although there is something at the path. -/
  refusal? : Access → String → Option FileError := fun _ _ => none
  environment : Environment := []
  child : Child := {}
  directory : List String := []
  defaultSettings : String := "/etc/ztc-shim.yaml"
  /-- How the text of a settings file is read. Another reader may give other values or break off. -/
  document : String → Except DocumentError Value := Yaml.read
  columns : Nat := 80
  emoji? : String → Option String := fun _ => none

namespace World

def valueOf? (w : World) (name : String) : Option String :=
  Text.nonempty? (w.environment.lookup name)

def find (w : World) (path : String) : Except FileError FileEntry := do
  let entry ← w.files.find w.directory path
  match w.refusal? .look path with
  | some error => .error error
  | none => .ok entry

def isFile (w : World) (path : String) : Except Breakdown Bool :=
  match w.find path with
  | .ok (.file ..) => .ok true
  | .ok .directory => .ok false
  | .error error => if error.isAbsence then .ok false else .error (.inaccessible error.number)

def content (w : World) (path : String) : Except FileError ByteArray :=
  match w.find path with
  | .ok (.file content _) =>
    match w.refusal? .read path with
    | some error => .error error
    | none => .ok content
  | .ok .directory => .error .isADirectory
  | .error error => .error error

end World

end Handover

import Handover.Failure
import Handover.Settings.Basic
import Handover.Text.Blank
import Handover.Text.Given
import Handover.Value.Display
import Handover.World.Basic

/-!
Layers of settings. Each source of settings has values for some of the fields, and a later layer
goes over the earlier ones field by field.
-/

namespace Handover.Settings

structure Layer where
  toolPath : Option String := none
  mode : Option String := none
  logLevel : Option String := none
  deriving DecidableEq

namespace Layer

def onto (layer : Layer) (s : Settings) : Settings where
  toolPath := layer.toolPath.getD s.toolPath
  mode := layer.mode.getD s.mode
  logLevel := layer.logLevel.getD s.logLevel
  source := s.source

def keys : List String := ["ztc_path", "dispatch_mode", "log_level"]

/-- What a settings file says under a key. If that is missing or null, it says nothing. -/
def entry (entries : List (Value × Value)) (key : String) : Except Breakdown (Option String) :=
  match Entries.get? Value.sameKey (.text key) entries with
  | none | some .null => .ok none
  | some value => if value.isWritable then .ok (some value.display) else .error .outOfRange

def ofEntries (entries : List (Value × Value)) : Except Breakdown Layer := do
  let toolPath ← entry entries "ztc_path"
  let mode ← entry entries "dispatch_mode"
  let logLevel ← entry entries "log_level"
  .ok { toolPath, mode, logLevel }

/-- The path is taken as it is, and the other two in any case and with blanks around them. -/
def ofVariables (w : World) : Layer where
  toolPath := w.valueOf? "ZTC_SHIM_BINARY"
  mode := (w.valueOf? "ZTC_SHIM_DISPATCH_MODE").map fun mode => Text.lower (Text.strip mode)
  logLevel := (w.valueOf? "ZTC_SHIM_LOG_LEVEL").map fun level => Text.upper (Text.strip level)

end Layer

end Handover.Settings

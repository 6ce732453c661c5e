import Handover.Run
import Handover.Settings.Layer

/-!
Where settings come from: the defaults, then a file, then the variables of the environment. A file
that is asked for has to be there, and the default one is read only if it is there.
-/

namespace Handover.Settings

def selected? (w : World) (requested : Option String) : Except Breakdown (Option String) :=
  match requested.or (w.valueOf? "ZTC_SHIM_CONFIG") with
  | some path => .ok (some (Path.normal path))
  | none =>
    let path := Path.normal w.defaultSettings
    (w.isFile path).map fun present => if present then some path else none

def refused (message : String) (detail : String := "") : Trouble :=
  .failure { kind := .settings, message, detail }

/-- Every line of a text ends in a line feed, whatever it ended in. -/
def withLineFeeds : List Char → List Char
  | '\r' :: '\n' :: rest => '\n' :: withLineFeeds rest
  | '\r' :: rest => '\n' :: withLineFeeds rest
  | c :: rest => c :: withLineFeeds rest
  | [] => []

def text (w : World) (path : String) : Except Trouble String :=
  if path.toList.contains '\x00' then .error (.breakdown .nullInPath)
  else
    match w.content path with
    | .error error => .error (refused ("ERROR: cannot read " ++ path ++ ": " ++ error.message path))
    | .ok bytes =>
      match String.fromUTF8? bytes with
      | some text => .ok (String.ofList (withLineFeeds text.toList))
      | none => .error (.breakdown .undecodable)

def troubleOf (path : String) : DocumentError → Trouble
  | .invalid description => refused ("ERROR: invalid YAML in " ++ path) (": " ++ description)
  | .broken breakdown => .breakdown breakdown

/-- The entries of a settings file. An empty file has none. -/
def entries (w : World) (path : String) : Except Trouble (List (Value × Value)) := do
  let text ← text w path
  match ← (w.document text).mapError (troubleOf path) with
  | .mapping entries => .ok entries
  | .null => .ok []
  | _ => .error (refused ("ERROR: " ++ path ++ " must contain a mapping of settings"))

def unknownKeys (entries : List (Value × Value)) : List Value :=
  (entries.map (·.1)).filter fun key => !Layer.keys.any fun name => key.sameKey (.text name)

def recordUnknown (path : String) (keys : List Value) : Run Unit :=
  if keys.isEmpty then pure ()
  else
    match keys.mapM Value.text? with
    | some names =>
      let sorted := names.mergeSort fun a b => decide (a ≤ b)
      .log .warning .settings
        ("Ignoring unknown keys in " ++ path ++ ": " ++ String.intercalate ", " sorted)
    | none => .breakDown .keyNotText

def ofFile (w : World) (path : String) : Run Settings := do
  let entries ← .ofExcept (entries w path)
  recordUnknown path (unknownKeys entries)
  let layer ← .ofExcept ((Layer.ofEntries entries).mapError .breakdown)
  pure (layer.onto { source := some path })

def load (w : World) (requested : Option String) : Run Settings := do
  let fromFile ←
    match ← .ofExcept ((selected? w requested).mapError .breakdown) with
    | some path => ofFile w path
    | none => pure {}
  let settings := (Layer.ofVariables w).onto fromFile
  .ofExcept (settings.validate.mapError .failure)

end Handover.Settings

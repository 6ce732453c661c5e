/-! Tags tell what a node stands for. -/

namespace Handover.Yaml

inductive Tag where
  | null
  | bool
  | int
  | float
  | binary
  | timestamp
  | text
  | sequence
  | mapping
  | set
  | orderedMapping
  | pairs
  | merge
  | value
  | unknown (uri : String)
  deriving DecidableEq

namespace Tag

def standard : String := "tag:yaml.org,2002:"

def names : List (String × Tag) := [
  ("null", .null), ("bool", .bool), ("int", .int), ("float", .float), ("binary", .binary),
  ("timestamp", .timestamp), ("str", .text), ("seq", .sequence), ("map", .mapping), ("set", .set),
  ("omap", .orderedMapping), ("pairs", .pairs), ("merge", .merge), ("value", .value)]

def ofUri (uri : String) : Tag :=
  ((names.find? fun (name, _) => standard ++ name == uri).map (·.2)).getD (.unknown uri)

def uri (tag : Tag) : String :=
  match tag, names.find? (·.2 == tag) with
  | .unknown uri, _ => uri
  | _, some (name, _) => standard ++ name
  | _, none => standard

end Tag

end Handover.Yaml

import Handover.Yaml.Node.Basic

/-!
Mappings that take over the pairs of others. What a mapping merges comes before its own pairs, so
that its own values stand.
-/

namespace Handover.Yaml.Node

abbrev Pairs := List (Node × Node)

/-- As a key, an equals sign is a text. -/
def asKey : Node → Node
  | .scalar .value text place => .scalar .text text place
  | key => key

def unmergeable {α : Type} (into : Place) (wanted : String) (found : Node) : Except Fault α :=
  complainWhile "while constructing a mapping" into
    ("expected a mapping" ++ wanted ++ " for merging, but found " ++ found.kind) found.place

mutual

def divide (into : Place) : Pairs → Except Fault (Pairs × Pairs)
  | [] => .ok ([], [])
  | (key, value) :: rest =>
    if key.tag = .merge then do
      let merged ← value.contribution into
      let (more, own) ← divide into rest
      .ok (merged ++ more, own)
    else do
      let (merged, own) ← divide into rest
      .ok (merged, (key.asKey, value) :: own)

/-- What a mapping, or a sequence of mappings, has for one that merges it. The first mapping of a
sequence has the last word. -/
def contribution (into : Place) : Node → Except Fault Pairs
  | .mapping _ pairs place => do
    let (merged, own) ← divide place pairs
    .ok (merged ++ own)
  | .sequence _ items _ => contributions into items
  | .enclosingMapping _ | .enclosingSequence _ => .ok []
  | .scalar tag text place => unmergeable into " or list of mappings" (.scalar tag text place)

def contributions (into : Place) : List Node → Except Fault Pairs
  | [] => .ok []
  | .mapping _ pairs place :: rest => do
    let (merged, own) ← divide place pairs
    let later ← contributions into rest
    .ok (later ++ merged ++ own)
  | .enclosingMapping _ :: rest => contributions into rest
  | other :: _ => unmergeable into "" other

end

def flatten (place : Place) (pairs : Pairs) : Except Fault Pairs := do
  let (merged, own) ← divide place pairs
  .ok (merged ++ own)

end Handover.Yaml.Node

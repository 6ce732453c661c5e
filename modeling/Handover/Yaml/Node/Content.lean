import Handover.Yaml.Meaning
import Handover.Yaml.Node.Merge

/-!
The value that a node stands for. A scalar has its value at once. A list or a mapping is filled
later, after everything on the levels above it, so of several faults the one on the highest level
is found first.
-/

namespace Handover.Yaml.Node

def noText (kind : String) (place : Place) : Except Fault String :=
  complain ("expected a scalar node, but found " ++ kind) place

mutual

/-- The text of a scalar. A mapping lends the text under its equals sign. -/
def text : Node → Except Fault String
  | .scalar _ text _ => .ok text
  | .mapping _ pairs place => lentText place pairs
  | .sequence _ _ place | .enclosingSequence place => noText "sequence" place
  | .enclosingMapping place => noText "mapping" place

def lentText (place : Place) : Pairs → Except Fault String
  | [] => noText "mapping" place
  | (key, value) :: rest => if key.tag = .value then value.text else lentText place rest

end

def immediate? (node : Node) : Except Fault (Option Value) :=
  match node with
  | .enclosingSequence _ => .ok (some .enclosingList)
  | .enclosingMapping _ => .ok (some .enclosingMapping)
  | _ =>
    match node.tag with
    | .sequence | .mapping | .set | .orderedMapping | .pairs => .ok none
    | .merge | .value | .unknown _ => Meaning.without node.tag node.place
    | tag => do .ok (some (← Meaning.scalar tag (← node.text) node.place))

inductive Filling where
  | items (items : List Node)
  | entries (start : Place) (pairs : Pairs)
  | couples (activity : String) (start : Place) (items : List Node)

def otherKind (wanted : String) (node : Node) : Except Fault Filling :=
  complain ("expected a " ++ wanted ++ " node, but found " ++ node.kind) node.place

def coupled (activity : String) : Node → Except Fault Filling
  | .sequence _ nodes place => .ok (.couples activity place nodes)
  | node =>
    complainWhile activity node.place ("expected a sequence, but found " ++ node.kind) node.place

def filling (node : Node) : Except Fault Filling :=
  match node.tag, node with
  | .sequence, .sequence _ nodes _ => .ok (.items nodes)
  | .sequence, other => otherKind "sequence" other
  | .orderedMapping, other => coupled "while constructing an ordered map" other
  | .pairs, other => coupled "while constructing pairs" other
  | _, .mapping _ pairs place => (flatten place pairs).map (.entries place)
  | _, other => otherKind "mapping" other

def couple (activity : String) (start : Place) : Node → Except Fault (Node × Node)
  | .mapping _ [pair] _ => .ok pair
  | .mapping _ pairs place =>
    complainWhile activity start
      ("expected a single mapping item, but found " ++ Nat.repr pairs.length ++ " items") place
  | node =>
    complainWhile activity start ("expected a mapping of length 1, but found " ++ node.kind)
      node.place

def key (start : Place) (node : Node) : Except Fault Value := do
  match (← node.immediate?).filter Value.isKey with
  | some value => .ok value
  | none => complainWhile "while constructing a mapping" start "found unhashable key" node.place

def deferred (nodes : List Node) : Except Fault (List Node) :=
  nodes.filterM fun node => do
    return (← node.immediate?).isNone

def Filling.deferred : Filling → Except Fault (List Node)
  | .items nodes => Node.deferred nodes
  | .entries start pairs => (pairs.mapM fun (name, value) => do
      let _ ← key start name
      Node.deferred [value]).map List.flatten
  | .couples activity start nodes => (nodes.mapM fun node => do
      let (first, second) ← couple activity start node
      Node.deferred [first, second]).map List.flatten

def checkLevels : (levels : Nat) → List Node → Except Fault Unit
  | 0, _ => .ok ()
  | levels + 1, nodes => do
    let next ← nodes.mapM fun node => do (← node.filling).deferred
    checkLevels levels next.flatten

mutual

def height : Node → Nat
  | .sequence _ items _ => itemHeight items + 1
  | .mapping _ pairs _ => pairHeight pairs + 1
  | _ => 1

def itemHeight : List Node → Nat
  | [] => 0
  | item :: rest => max item.height (itemHeight rest)

def pairHeight : List (Node × Node) → Nat
  | [] => 0
  | (key, value) :: rest => max (max key.height value.height) (pairHeight rest)

end

def entries (pairs : List (Value × Value)) : List (Value × Value) :=
  Entries.ofList Value.sameKey pairs

def build : (levels : Nat) → Node → Except Fault Value
  | 0, node => complain "the document is nested too deeply" node.place
  | levels + 1, node => do
    match ← node.immediate? with
    | some value => .ok value
    | none =>
      match ← node.filling with
      | .items items => .ok (.list (← items.mapM (build levels)))
      | .couples activity start items =>
        let couples ← items.mapM fun item => do
          let (first, second) ← couple activity start item
          .ok (Value.pair (← build levels first) (← build levels second))
        .ok (.list couples)
      | .entries start pairs =>
        let found ← pairs.mapM fun (name, value) => do
          .ok (← key start name, ← build levels value)
        if node.tag = .set then .ok (.set ((entries found).map (·.1)))
        else .ok (.mapping (entries found))

def value (node : Node) : Except Fault Value := do
  if (← node.immediate?).isNone then checkLevels node.height [node]
  build node.height node

end Handover.Yaml.Node

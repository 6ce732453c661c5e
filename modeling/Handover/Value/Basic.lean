import Handover.Entries
import Handover.Value.Calendar

/-! Values of a settings file before they are read as settings. -/

namespace Handover

inductive Value where
  | null
  | bool (b : Bool)
  | int (n : Int)
  | float (x : Number.Double)
  | text (s : String)
  | bytes (bytes : List UInt8)
  | date (date : Date)
  | moment (moment : Moment)
  | list (items : List Value)
  | pair (key value : Value)
  | set (items : List Value)
  | mapping (entries : List (Value × Value))
  /-- A list or a mapping that contains the place where this stands. -/
  | enclosingList
  | enclosingMapping
  /-- Anything else, told by how it is written out. It may be too large or too deep for that. -/
  | foreign (written : Option String)
  deriving Inhabited

namespace Value

def isKey : Value → Bool
  | .list _ | .pair .. | .set _ | .mapping _ | .enclosingList | .enclosingMapping => false
  | .foreign _ => false
  | _ => true

def text? : Value → Option String
  | .text s => some s
  | _ => none

def asInt? : Value → Option Int
  | .bool b => some (if b then 1 else 0)
  | .int n => some n
  | _ => none

/-- Whether two keys name the same entry. Numbers are compared by their value, whatever their
form. -/
def sameKey (a b : Value) : Bool :=
  match a, b with
  | .null, .null => true
  | .text s, .text t => s == t
  | .bytes s, .bytes t => s == t
  | .date d, .date e => d == e
  | .moment m, .moment n => m.same n
  | .float x, .float y => x.same y
  | .float x, other => (other.asInt?.map fun n => x.isInt n).getD false
  | other, .float x => (other.asInt?.map fun n => x.isInt n).getD false
  | _, _ => a.asInt?.isSome && a.asInt? == b.asInt?

/-- Whether there is anything to a value: not null, false, zero or empty. -/
def isPresent : Value → Bool
  | .null => false
  | .bool b => b
  | .int n => n != 0
  | .float x => !x.isZero
  | .text s => !s.isEmpty
  | .bytes s => !s.isEmpty
  | .list items | .set items => !items.isEmpty
  | .mapping entries => !entries.isEmpty
  | .date _ | .moment _ | .pair .. | .enclosingList | .enclosingMapping => true
  | .foreign _ => true

end Value

end Handover

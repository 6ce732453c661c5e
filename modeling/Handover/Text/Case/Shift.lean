/-!
A case mapping is regular almost everywhere: runs of letters, each or every second one, move by the
same distance. A `Shift` is one such run.
-/

namespace Handover.Text

structure Shift where
  first : Nat
  last : Nat
  step : Nat
  distance : Int

namespace Shift

def covers (s : Shift) (n : Nat) : Bool :=
  s.first ≤ n && n ≤ s.last && (n - s.first) % s.step == 0

def apply (s : Shift) (n : Nat) : Nat := (n + s.distance).toNat

def lookup (runs : List Shift) (n : Nat) : Nat :=
  match runs.find? (·.covers n) with
  | some s => s.apply n
  | none => n

end Shift

end Handover.Text

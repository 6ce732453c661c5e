/-!
Numbers in double precision, as exact integers: a coefficient of at most 53 bits times a power of
two. Every operation computes the exact rational result and rounds it once, to the nearest number
and in a tie to the even coefficient.
-/

namespace Handover.Number

inductive Double where
  /-- The coefficient times two to the exponent. The coefficient has 53 bits, or fewer at the least
  exponent. -/
  | finite (negative : Bool) (coefficient : Nat) (exponent : Int)
  | infinite (negative : Bool)
  | nan
  deriving DecidableEq

namespace Double

def leastExponent : Int := -1074

def greatestExponent : Int := 971

/-- The quotient, rounded to the nearest integer and in a tie to the even one. -/
def roundQuotient (numerator denominator : Nat) : Nat :=
  let quotient := numerator / denominator
  let rest := 2 * (numerator % denominator)
  if denominator < rest ∨ (rest = denominator ∧ quotient % 2 = 1) then quotient + 1 else quotient

def scale (numerator denominator : Nat) (exponent : Int) : Nat × Nat :=
  (numerator * Nat.pow 2 (-exponent).toNat, denominator * Nat.pow 2 exponent.toNat)

def exponentOf (numerator denominator : Nat) : Int :=
  let guess : Int := (numerator.log2 : Int) - denominator.log2 - 52
  let (n, d) := scale numerator denominator guess
  max leastExponent (if n / d < Nat.pow 2 52 then guess - 1 else guess)

def zero (negative : Bool) : Double := .finite negative 0 leastExponent

def nearest (negative : Bool) (numerator denominator : Nat) : Double :=
  if numerator = 0 then zero negative
  else
    let exponent := exponentOf numerator denominator
    let (n, d) := scale numerator denominator exponent
    let coefficient := roundQuotient n d
    let (coefficient, exponent) :=
      if coefficient = Nat.pow 2 53 then (Nat.pow 2 52, exponent + 1) else (coefficient, exponent)
    if greatestExponent < exponent then .infinite negative
    else .finite negative coefficient exponent

/-- The nearest number to a decimal. Decimals far outside the range are not multiplied out. -/
def ofDecimal (negative : Bool) (digits : Nat) (exponent : Int) : Double :=
  let magnitude : Int := ((digits.log2 : Int) * 3) / 10 + exponent
  if digits = 0 ∨ magnitude < -400 then zero negative
  else if 400 < magnitude then .infinite negative
  else nearest negative (digits * Nat.pow 10 exponent.toNat) (Nat.pow 10 (-exponent).toNat)

def ofNat (n : Nat) : Double := nearest false n 1

def isNegative : Double → Bool
  | .finite negative .. => negative
  | .infinite negative => negative
  | .nan => false

def withSign (negative : Bool) : Double → Double
  | .finite _ c e => .finite negative c e
  | .infinite _ => .infinite negative
  | .nan => .nan

def negate (x : Double) : Double := x.withSign !x.isNegative

def mul : Double → Double → Double
  | .nan, _ | _, .nan => .nan
  | .finite s c e, .finite t d f =>
    let exponent := e + f
    nearest (s != t) (c * d * Nat.pow 2 exponent.toNat) (Nat.pow 2 (-exponent).toNat)
  | .finite _ 0 _, .infinite _ | .infinite _, .finite _ 0 _ => .nan
  | x, y => .infinite (x.isNegative != y.isNegative)

def add : Double → Double → Double
  | .nan, _ | _, .nan => .nan
  | .infinite s, .infinite t => if s = t then .infinite s else .nan
  | .infinite s, .finite .. | .finite .., .infinite s => .infinite s
  | .finite s c e, .finite t d f =>
    let least := min e f
    let signed (negative : Bool) (n : Nat) : Int := if negative then -n else n
    let sum := signed s (c * Nat.pow 2 (e - least).toNat) +
      signed t (d * Nat.pow 2 (f - least).toNat)
    if sum = 0 then zero (s && t)
    else nearest (decide (sum < 0)) (sum.natAbs * Nat.pow 2 least.toNat)
      (Nat.pow 2 (-least).toNat)

def isInt (n : Int) : Double → Bool
  | .finite negative c e =>
    let (numerator, denominator) := (c * Nat.pow 2 e.toNat, Nat.pow 2 (-e).toNat)
    decide ((if negative then -(numerator : Int) else numerator) = n * denominator)
  | _ => false

def isZero : Double → Bool
  | .finite _ c _ => c == 0
  | _ => false

/-- Equality of values: both zeros are equal, and nothing equals what is no number. -/
def same : Double → Double → Bool
  | .nan, _ | _, .nan => false
  | x, y => (x.isZero && y.isZero) || x == y

end Double

end Handover.Number

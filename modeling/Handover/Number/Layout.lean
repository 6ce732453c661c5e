import Handover.Number.Digits

/-! Decimal text of integers and of numbers in double precision. -/

namespace Handover.Number

structure Layout where
  /-- The first digit may stand at these powers of ten in positional notation. -/
  positionalFrom : Int := -4
  positionalBelow : Int := 16
  mark : Char := 'e'
  exponentDigits : Nat := 2
  infinity : String := "inf"
  noNumber : String := "nan"

def padZeros (width : Nat) (digits : List Char) : List Char :=
  List.replicate (width - digits.length) '0' ++ digits

def padded (width n : Nat) : String := String.ofList (padZeros width (Nat.toDigits 10 n))

def integer (n : Int) : String :=
  if n < 0 then "-" ++ Nat.repr n.natAbs else Nat.repr n.natAbs

namespace Layout

def positional (digits : List Char) (place : Int) : List Char :=
  if 0 ≤ place then digits ++ List.replicate place.toNat '0' ++ ['.', '0']
  else
    let decimals := (-place).toNat
    let digits := padZeros (decimals + 1) digits
    digits.take (digits.length - decimals) ++ '.' :: digits.drop (digits.length - decimals)

def scientific (l : Layout) (digits : List Char) (leading : Int) : List Char :=
  let mantissa := match digits with
    | c :: d :: rest => c :: '.' :: d :: rest
    | short => short
  let sign := if leading < 0 then '-' else '+'
  mantissa ++ l.mark :: sign :: padZeros l.exponentDigits (Nat.toDigits 10 leading.natAbs)

def magnitude (l : Layout) (coefficient : Nat) (exponent : Int) : List Char :=
  if coefficient = 0 then ['0', '.', '0']
  else
    let (n, place) := shortestDigits coefficient exponent
    let digits := Nat.toDigits 10 n
    let leading := digits.length - 1 + place
    if l.positionalFrom ≤ leading ∧ leading < l.positionalBelow then positional digits place
    else l.scientific digits leading

def render (l : Layout) (x : Double) : String :=
  let sign := if x.isNegative then "-" else ""
  match x with
  | .finite _ coefficient exponent => sign ++ String.ofList (l.magnitude coefficient exponent)
  | .infinite _ => sign ++ l.infinity
  | .nan => l.noNumber

end Layout

end Handover.Number

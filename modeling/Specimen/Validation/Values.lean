import Specimen.Decimal.Shortest
import Specimen.Json.Basic

/-!
# Values under validation

For a schema a number is its mathematical value, so `1` and `1.0` are equal, and
a value is an integer whenever its number is. Only the fourth draft looks at how
the number is written.
-/

namespace Specimen

/-! ## Numbers -/

namespace Number

/-- The value of a number, which is finite. -/
def toRat : Number → Rat
  | int n => n
  | float x => x.toRat

def isInteger (n : Number) : Bool := n.toRat.den = 1

/-- Whether a number is written without a fraction and an exponent. -/
def isWrittenInteger : Number → Bool
  | int _ => true
  | float _ => false

end Number

namespace Validation

/-- The distance below which two numbers that are nearly one count as equal. -/
def tolerance : Rat := 1 / 0x10_0000_0000_0000

/-- The fraction of a number, with its sign. -/
def fractionOf (q : Rat) : Rat := q - (if q < 0 then q.ceil else q.floor)

/-- The value of the shortest decimal that reads as a number. -/
def decimalValue (x : Double) : Rat :=
  let d := Decimal.shortest .even x
  let size : Rat := (d.coefficient : Nat) * (10 : Rat) ^ d.exponent
  if x.isNegative then -size else size

/-- Whether a number is a multiple of another. The quotient is rounded, and its
fraction may be as large as the tolerance; a quotient below zero passes with any
fraction. If the quotient is too large for a number, decimals decide. -/
def isMultiple (n step : Number) : Bool :=
  let x := n.toDouble
  let m := step.toDouble
  if m.isIntegral then (x.toRat / m.toRat).den = 1
  else
    let quotient := x.div m
    if quotient.isFinite then fractionOf quotient.toRat < tolerance
    else m.abs.toRat < tolerance || (decimalValue x / decimalValue m).den = 1

/-! ## Equality -/

mutual

/-- Whether two values are equal, their numbers by value. -/
def equal : Json → Json → Bool
  | .null, .null => true
  | .bool a, .bool b => a == b
  | .number a, .number b => a.toRat == b.toRat
  | .string a, .string b => a == b
  | .array a, .array b => equalItems a b
  | .object a, .object b => equalFields a b
  | _, _ => false

def equalItems : List Json → List Json → Bool
  | [], [] => true
  | a :: as, b :: bs => equal a b && equalItems as bs
  | _, _ => false

def equalFields : List (String × Json) → List (String × Json) → Bool
  | [], [] => true
  | (name, a) :: as, (other, b) :: bs => name == other && equal a b && equalFields as bs
  | _, _ => false

end

/-- Whether a value is the one that is asked for. Two numbers may be apart by less
than the tolerance. -/
def isConstant (constant v : Json) : Bool :=
  match constant, v with
  | .number a, .number b =>
    let difference := a.toDouble.add b.toDouble.neg
    difference.abs.toRat < tolerance
  | _, _ => equal constant v

/-- Whether no two items are equal. -/
def areDistinct : List Json → Bool
  | [] => true
  | item :: rest => !rest.any (equal item) && areDistinct rest

end Validation

end Specimen

import Specimen.Schema.Node

/-!
# Numeric bounds

A bound may be strict in two ways: by a flag next to the plain keyword
(`"exclusiveMinimum": true` beside `minimum`) or by a number of its own
(`"exclusiveMinimum": 3`). Where both are given the tighter bound holds.

From the bounds come the closed ranges that numbers are drawn from. A side
without a bound lies at `openBound`, and a range whose only bound lies beyond
that is widened by as much again.
-/

namespace Specimen

/-- One side of a range of numbers. -/
structure Bound where
  value : Double
  strict : Bool

/-- The two sides of a range. -/
inductive Side where
  | lower
  | upper
deriving DecidableEq

namespace Side

def plainKeyword : Side → String
  | lower => "minimum"
  | upper => "maximum"

def strictKeyword : Side → String
  | lower => "exclusiveMinimum"
  | upper => "exclusiveMaximum"

end Side

namespace Bound

/-- Whether `a` leaves less room than `b` by its value alone. -/
def inside (side : Side) (a b : Bound) : Bool :=
  match side with
  | .lower => b.value < a.value
  | .upper => a.value < b.value

/-- The bound that leaves less room. -/
def tighter (side : Side) (a b : Bound) : Bound :=
  if a.inside side b || (a.value.same b.value && a.strict) then a else b

/-- Whether two bounds leave no number between them. -/
def exclude (lower upper : Bound) : Bool :=
  upper.value < lower.value || (lower.value.same upper.value && (lower.strict || upper.strict))

end Bound

/-- The magnitude at which a side without a bound lies. -/
def openBound : Int := 2147483647

namespace Node

/-- The bound on one side of the numbers that a node admits. -/
def bound? (node : Node) (side : Side) : Option Bound :=
  let plain := (node.double? side.plainKeyword).map fun value =>
    { value, strict := node.flag side.strictKeyword : Bound }
  let strict := (node.double? side.strictKeyword).map fun value =>
    { value, strict := true : Bound }
  match plain, strict with
  | some a, some b => some (a.tighter side b)
  | some a, none => some a
  | none, b => b

/-! ## Integers -/

/-- The least 64-bit integer above or, if the bound is not strict, at a bound. -/
def leastInteger (b : Bound) : Int :=
  if b.strict then saturate (b.value.floor.toInt64 + 1) else b.value.ceil.toInt64

/-- The greatest 64-bit integer below or, if the bound is not strict, at a
bound. -/
def greatestInteger (b : Bound) : Int :=
  if b.strict then saturate (b.value.ceil.toInt64 - 1) else b.value.floor.toInt64

/-- The closed range of integers between two sides that may be open. -/
def closeIntegers : Option Int → Option Int → Int × Int
  | some lo, some hi => (lo, hi)
  | some lo, none => if openBound < lo then (lo, saturate (lo + openBound)) else (lo, openBound)
  | none, some hi =>
    if hi < -openBound then (saturate (hi - openBound), hi) else (-openBound, hi)
  | none, none => (-openBound, openBound)

/-- The closed range of integers that a node admits. -/
def integerRange (node : Node) : Except SchemaError (Int × Int) :=
  let (lo, hi) := closeIntegers ((node.bound? .lower).map leastInteger)
    ((node.bound? .upper).map greatestInteger)
  if hi < lo then .error (.malformed (.noInteger lo hi)) else .ok (lo, hi)

/-! ## Numbers with a fraction -/

/-- The closed range of numbers between two sides that may be open. -/
def closeNumbers : Option Double → Option Double → Double × Double
  | some lo, some hi => (lo, hi)
  | some lo, none =>
    let far : Double := .ofInt openBound
    if far < lo then (lo, lo + far) else (lo, far)
  | none, some hi =>
    let far : Double := .ofInt openBound
    if hi < -far then (hi - far, hi) else (-far, hi)
  | none, none => (-.ofInt openBound, .ofInt openBound)

/-- The closed range of numbers that are drawn for a node. A strict bound is kept
by moving it inward by one; where that leaves nothing of a narrow range, its
middle stands for it. -/
def numberRange (node : Node) : Except SchemaError (Double × Double) :=
  let lower := node.bound? .lower
  let upper := node.bound? .upper
  let (lo, hi) := closeNumbers
    (lower.map fun b => if b.strict then b.value + .ofInt 1 else b.value)
    (upper.map fun b => if b.strict then b.value - .ofInt 1 else b.value)
  if lo ≤ hi then .ok (lo, hi)
  else
    match lower, upper with
    | some lower, some upper =>
      if lower.exclude upper then
        .error (.malformed (.noNumber lower.value lower.strict upper.value upper.strict))
      else
        let middle := lower.value / .ofInt 2 + upper.value / .ofInt 2
        .ok (middle, middle)
    | _, _ => .ok (hi, lo)

/-! ## Multiples -/

/-- The step of a node's numbers, which is one unless a positive step is given. -/
def step (node : Node) : Double :=
  match node.double? "multipleOf" with
  | some m => if 0 < m ∧ m.isFinite then m else .ofInt 1
  | none => .ofInt 1

end Node

/-- The closed range of the factors whose product with `step` lies in the closed
range from `lo` to `hi`. -/
def factorRange (lo hi step : Double) : Except SchemaError (Int × Int) :=
  let least := (lo / step).ceil
  let greatest := (hi / step).floor
  if greatest < least then .error (.malformed (.noMultiple step lo hi))
  else .ok (least.toInt64, greatest.toInt64)

end Specimen

import Specimen.Double

/-!
# Shortest decimal digits

A finite number is written with the fewest decimal digits that still read back
as it. The decimals that read back are those in the number's rounding interval,
which reaches half way to each neighbour and holds its ends exactly when the
significand is even. For each digit count the two grid points next to the
number are tried, and the first count with a hit gives the digits; of two hits
the nearer is taken.
-/

namespace Specimen.Decimal

/-- A positive decimal `coefficient · 10 ^ exponent`. -/
structure Digits where
  coefficient : Nat
  exponent : Int
deriving DecidableEq

/-- Which of two equally near decimals is taken. -/
inductive Tie where
  | even
  | up
deriving DecidableEq

/-- How many decimal digits a natural number has; zero has one. -/
def digitCount (n : Nat) : Nat :=
  if n < 10 then 1 else digitCount (n / 10) + 1
termination_by n
decreasing_by omega

/-- For positive `q`, the position of its decimal point: the `p` with
`10 ^ (p - 1) ≤ q < 10 ^ p`. -/
def pointPosition (q : Rat) : Int :=
  if 1 ≤ q then digitCount q.floor.toNat
  else 1 - digitCount (q⁻¹.ceil.toNat - 1)

/-- The decimals that read back as one number. -/
structure Interval where
  value : Rat
  low : Rat
  high : Rat
  closed : Bool

/-- The rounding interval of the size of a finite number. Below a power of two
the neighbours are twice as close, except among the smallest numbers. -/
def Interval.ofDouble (x : Double) : Interval :=
  let m : Rat := x.significand
  let unit : Rat := (2 : Rat) ^ x.exponent
  let lowest := x.significand == 0x10_0000_0000_0000 && decide (-1074 < x.exponent)
  { value := m * unit
    low := (m - if lowest then 1 / 4 else 1 / 2) * unit
    high := (m + 1 / 2) * unit
    closed := x.significand % 2 == 0 }

def Interval.contains (i : Interval) (q : Rat) : Bool :=
  if i.closed then decide (i.low ≤ q) && decide (q ≤ i.high)
  else decide (i.low < q) && decide (q < i.high)

/-- The nearer of the two neighbours `below` and `below + 1` of `scaled`. -/
def nearer (tie : Tie) (scaled : Rat) (below : Nat) : Nat :=
  let rest := scaled - below
  if rest < 1 / 2 then below
  else if 1 / 2 < rest then below + 1
  else match tie with
    | .even => if below % 2 == 0 then below else below + 1
    | .up => below + 1

/-- The decimal with `count` digits that is read back as the interval's number,
if there is one. -/
def atCount (tie : Tie) (i : Interval) (point : Int) (count : Nat) : Option Digits :=
  let exponent := point - count
  let unit : Rat := (10 : Rat) ^ exponent
  let below := (i.value / unit).floor.toNat
  match i.contains (below * unit), i.contains ((below + 1 : Nat) * unit) with
  | true, true => some ⟨nearer tie (i.value / unit) below, exponent⟩
  | true, false => some ⟨below, exponent⟩
  | false, true => some ⟨below + 1, exponent⟩
  | false, false => none

/-- The decimal without the zeros at the end of its coefficient. -/
def Digits.trimmed (d : Digits) : Digits :=
  if d.coefficient = 0 then d
  else if d.coefficient % 10 = 0 then trimmed ⟨d.coefficient / 10, d.exponent + 1⟩
  else d
termination_by d.coefficient
decreasing_by omega

/-- The shortest decimal of the size of a finite number other than zero.
Seventeen digits always suffice, so the last count needs no test. -/
def shortest (tie : Tie) (x : Double) : Digits :=
  let i := Interval.ofDouble x
  let point := pointPosition i.value
  let found := (List.range' 1 16).findSome? (atCount tie i point)
  let last : Digits :=
    let unit : Rat := (10 : Rat) ^ (point - 17)
    ⟨nearer tie (i.value / unit) (i.value / unit).floor.toNat, point - 17⟩
  (found.getD last).trimmed

end Specimen.Decimal

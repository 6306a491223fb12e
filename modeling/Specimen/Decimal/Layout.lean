import Specimen.Decimal.Shortest

/-!
# Written numbers

How the digits of a number are set out as text. A `Layout` holds what differs
between the two places where numbers are written: `Layout.document` for numbers
inside a document, which must read back as numbers with a fraction, and
`Layout.message` for numbers inside a sentence.
-/

namespace Specimen.Decimal

/-- The decisions that a way of writing numbers takes. -/
structure Layout where
  /-- The positions of the decimal point at which no exponent is written. -/
  positional : Int → Bool
  /-- Whether an integral number still ends in a point and a zero. -/
  keepsPoint : Bool
  /-- Which of two equally near decimals is written. -/
  tie : Tie

/-- Numbers in documents keep a point or an exponent, so that they stay apart
from integers. -/
def Layout.document : Layout where
  positional p := decide (-5 < p) && decide (p ≤ 16)
  keepsPoint := true
  tie := .even

/-- Numbers in messages never have an exponent. -/
def Layout.message : Layout where
  positional _ := true
  keepsPoint := false
  tie := .up

/-- The decimal digits of a natural number, first digit first. -/
def digits (n : Nat) : List Char := (toString n).toList

/-- `count` zeros. -/
def zeros (count : Int) : List Char := List.replicate count.toNat '0'

/-- Digits with the decimal point after the first `point` of them, filled up
with zeros on either side. -/
def positional (keepsPoint : Bool) (ds : List Char) (point : Int) : List Char :=
  if point ≤ 0 then '0' :: '.' :: (zeros (-point) ++ ds)
  else if ds.length ≤ point then
    ds ++ zeros (point - ds.length) ++ if keepsPoint then ['.', '0'] else []
  else ds.take point.toNat ++ '.' :: ds.drop point.toNat

/-- Digits with the decimal point after the first and a signed exponent. -/
def scientific (ds : List Char) (point : Int) : List Char :=
  let exponent := point - 1
  let fraction := match ds.drop 1 with
    | [] => []
    | rest => '.' :: rest
  ds.take 1 ++ fraction ++ 'e' :: (if exponent < 0 then '-' else '+') :: digits exponent.natAbs

/-- The text of a finite number without its sign. -/
def Layout.size (l : Layout) (x : Double) : List Char :=
  if x.magnitude = 0 then if l.keepsPoint then ['0', '.', '0'] else ['0']
  else
    let d := shortest l.tie x
    let ds := digits d.coefficient
    let point := d.exponent + ds.length
    if l.positional point then Decimal.positional l.keepsPoint ds point
    else scientific ds point

/-- The text of a number. -/
def Layout.write (l : Layout) (x : Double) : String :=
  if x.isNaN then "NaN"
  else
    let size := if x.isInfinite then ['i', 'n', 'f'] else l.size x
    String.ofList (if x.isNegative then '-' :: size else size)

end Specimen.Decimal

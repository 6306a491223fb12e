/-!
# Binary floating-point numbers

A `Double` is the 64 bits of a binary interchange number: a sign, an
eleven-bit exponent and a 52-bit fraction. Finite numbers denote rationals
(`Double.toRat`), and every operation below is the exact rational result
rounded once to the nearest number, a tie going to the even significand
(`Double.ofRat`). Nothing here leaves the integers and the rationals, so what
an operation returns can be computed inside a proof.

Without their sign the bits read as a natural number, the *magnitude*, and
magnitudes are ordered as the numbers they stand for. Comparison is therefore
comparison of signed magnitudes, and rounding only has to find a magnitude.
-/

namespace Specimen

/-- A 64-bit binary floating-point number, given by its bits. -/
structure Double where
  bits : UInt64
deriving DecidableEq, Inhabited

namespace Double

/-! ## Parts of a number -/

/-- The bits without the sign, as a natural number. -/
def magnitude (x : Double) : Nat := x.bits.toNat % 0x8000_0000_0000_0000

/-- Whether the sign bit is set; true also of negative zero. -/
def isNegative (x : Double) : Bool := 0x8000_0000_0000_0000 ≤ x.bits.toNat

/-- The magnitude of infinity: the largest exponent and no fraction. -/
def infiniteMagnitude : Nat := 0x7FF0_0000_0000_0000

def isNaN (x : Double) : Bool := infiniteMagnitude < x.magnitude

def isInfinite (x : Double) : Bool := x.magnitude == infiniteMagnitude

def isFinite (x : Double) : Bool := x.magnitude < infiniteMagnitude

/-- The integer that the exponent scales: the fraction, with the leading one
that normal numbers leave implicit. -/
def significand (x : Double) : Nat :=
  if x.magnitude < 0x10_0000_0000_0000 then x.magnitude
  else x.magnitude % 0x10_0000_0000_0000 + 0x10_0000_0000_0000

/-- The power of two that scales the significand. -/
def exponent (x : Double) : Int := max 1 (x.magnitude / 0x10_0000_0000_0000 : Nat) - 1075

/-- The rational a finite number denotes. -/
def toRat (x : Double) : Rat :=
  let size : Rat := x.significand * (2 : Rat) ^ x.exponent
  if x.isNegative then -size else size

/-- The number with the given sign and magnitude. -/
def ofMagnitude (negative : Bool) (magnitude : Nat) : Double :=
  ⟨UInt64.ofNat (magnitude + if negative then 0x8000_0000_0000_0000 else 0)⟩

def nan : Double := ofMagnitude false (infiniteMagnitude + 0x8_0000_0000_0000)

def infinity (negative : Bool) : Double := ofMagnitude negative infiniteMagnitude

def zero (negative : Bool) : Double := ofMagnitude negative 0

/-! ## Rounding -/

/-- The nearest integer; a half goes to the even neighbour. -/
def roundHalfEven (q : Rat) : Int :=
  let below := q.floor
  let rest := q - below
  if rest < 1 / 2 then below
  else if 1 / 2 < rest then below + 1
  else if below % 2 = 0 then below else below + 1

/-- For positive `q`, the exponent of the grid it is rounded on: the one at
which `q` has 53 binary digits before the point, but never below the smallest
exponent. -/
def gridExponent (q : Rat) : Int :=
  let width : Int := (q.num.natAbs.log2 : Int) - (q.den.log2 : Int)
  max (-1074) (if q < (2 : Rat) ^ width then width - 53 else width - 52)

/-- The magnitude nearest to positive `q`. Counting grid points from zero makes
the carry into the next exponent, and into infinity, ordinary addition. -/
def nearestMagnitude (q : Rat) : Nat :=
  let e := gridExponent q
  min infiniteMagnitude
    ((e + 1074).toNat * 0x10_0000_0000_0000 + (roundHalfEven (q / (2 : Rat) ^ e)).toNat)

/-- The number nearest to `q`. A zero has no sign of its own and takes the
given one. -/
def ofRat (zeroNegative : Bool) (q : Rat) : Double :=
  if q = 0 then zero zeroNegative
  else if q < 0 then ofMagnitude true (nearestMagnitude (-q))
  else ofMagnitude false (nearestMagnitude q)

/-- The number nearest to an integer. -/
def ofInt (n : Int) : Double := ofRat false n

instance : OfNat Double n := ⟨ofInt n⟩

/-! ## Order -/

/-- The magnitude with the sign put back: an order embedding of the numbers
that are not NaN, in which both zeros agree. -/
def key (x : Double) : Int := if x.isNegative then -(x.magnitude : Int) else x.magnitude

/-- Numerical order; NaN is below nothing. -/
instance : LT Double := ⟨fun x y => x.isNaN = false ∧ y.isNaN = false ∧ x.key < y.key⟩

/-- Numerical order; NaN is not below itself. -/
instance : LE Double := ⟨fun x y => x.isNaN = false ∧ y.isNaN = false ∧ x.key ≤ y.key⟩

instance (x y : Double) : Decidable (x < y) :=
  inferInstanceAs (Decidable (x.isNaN = false ∧ y.isNaN = false ∧ x.key < y.key))

instance (x y : Double) : Decidable (x ≤ y) :=
  inferInstanceAs (Decidable (x.isNaN = false ∧ y.isNaN = false ∧ x.key ≤ y.key))

/-- Numerical equality: the zeros are equal, and NaN equals nothing. -/
def same (x y : Double) : Bool := !x.isNaN && !y.isNaN && x.key == y.key

/-! ## Arithmetic -/

def neg (x : Double) : Double := ofMagnitude (!x.isNegative) x.magnitude

instance : Neg Double := ⟨neg⟩

/-- Addition. A sum of exactly zero is negative only when both terms are. -/
def add (x y : Double) : Double :=
  if x.isNaN || y.isNaN then nan
  else if x.isInfinite then
    if y.isInfinite && x.isNegative != y.isNegative then nan else x
  else if y.isInfinite then y
  else ofRat (x.isNegative && y.isNegative) (x.toRat + y.toRat)

instance : Add Double := ⟨add⟩

instance : Sub Double := ⟨fun x y => x + -y⟩

/-- Multiplication. Signs multiply, also those of zeros. -/
def mul (x y : Double) : Double :=
  let negative := x.isNegative != y.isNegative
  if x.isNaN || y.isNaN then nan
  else if x.isInfinite || y.isInfinite then
    if x.magnitude == 0 || y.magnitude == 0 then nan else infinity negative
  else ofRat negative (x.toRat * y.toRat)

instance : Mul Double := ⟨mul⟩

/-- Division. A non-zero number over zero is infinite. -/
def div (x y : Double) : Double :=
  let negative := x.isNegative != y.isNegative
  if x.isNaN || y.isNaN then nan
  else if x.isInfinite then if y.isInfinite then nan else infinity negative
  else if y.isInfinite then zero negative
  else if y.magnitude == 0 then if x.magnitude == 0 then nan else infinity negative
  else ofRat negative (x.toRat / y.toRat)

instance : Div Double := ⟨div⟩

/-- The number without its sign. -/
def abs (x : Double) : Double := ofMagnitude false x.magnitude

/-- The number moved into the closed range from `lo` to `hi`. -/
def clamp (x lo hi : Double) : Double :=
  let raised := if x < lo then lo else x
  if hi < raised then hi else raised

/-! ## Integral parts -/

/-- The greatest integral number that is not above `x`. -/
def floor (x : Double) : Double :=
  if x.isFinite then ofRat x.isNegative x.toRat.floor else x

/-- The least integral number that is not below `x`. -/
def ceil (x : Double) : Double :=
  if x.isFinite then ofRat x.isNegative x.toRat.ceil else x

/-- Whether `x` denotes an integer. -/
def isIntegral (x : Double) : Bool := x.isFinite && x.toRat.den == 1

/-- The integer part of `x`, moved into the closed range from `lo` to `hi`; NaN
counts as zero. -/
def toIntClamped (x : Double) (lo hi : Int) : Int :=
  if x.isNaN then 0
  else if x.isInfinite then if x.isNegative then lo else hi
  else max lo (min hi (x.toRat.num.tdiv x.toRat.den))

end Double

/-! ## Machine integers -/

/-- The least and greatest signed 64-bit integers. -/
def int64Min : Int := -0x8000_0000_0000_0000
def int64Max : Int := 0x7FFF_FFFF_FFFF_FFFF

/-- The greatest unsigned 64-bit integer. -/
def uint64Max : Nat := 0xFFFF_FFFF_FFFF_FFFF

/-- The nearest signed 64-bit integer: arithmetic that stops at its limits. -/
def saturate (n : Int) : Int := max int64Min (min int64Max n)

/-- The integer part of a number as a signed 64-bit integer. -/
def Double.toInt64 (x : Double) : Int := x.toIntClamped int64Min int64Max

end Specimen

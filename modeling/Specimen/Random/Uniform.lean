import Specimen.Random.Draw
import Specimen.Double

/-!
# Even choices of numbers

A number below `n` is the high part of the product of a random word and `n`. As
the words do not divide evenly among the numbers, products with a low part in
the uneven rest are refused and another word is taken; what is left gives each
number the same count of words.

There is a choice in how much is refused. `below` refuses what a shift of `n`
tells without a division, `belowExact` no more than it has to.
-/

namespace Specimen.Draw

variable {σ ε : Type}

/-- Takes words of `bits` bits until the low part of the product of one with `n`
is accepted; gives the high part. -/
def redraw (bits n : Nat) (accept : Nat → Bool) (word : Draw σ ε Nat) : Nat → Draw σ ε Nat
  | 0 => endless
  | tries + 1 => do
    let w ← word
    if accept (w * n % (1 <<< bits)) then return w * n / (1 <<< bits)
    else redraw bits n accept word tries

/-- The greatest low part that is accepted: the least multiple of `n` by a power
of two that has `bits` bits, less one. -/
def zone (bits n : Nat) : Nat := (n <<< (bits - 1 - n.log2)) - 1

/-- A number below `n`, from words of `bits` bits. -/
def below (bits : Nat) (word : Draw σ ε Nat) (n : Nat) : Draw σ ε Nat := do
  if n = 1 <<< bits then word
  else redraw bits n (fun low => low ≤ zone bits n) word (← limit)

/-- A number below `n`, with as few words refused as possible. -/
def belowExact (bits : Nat) (word : Draw σ ε Nat) (n : Nat) : Draw σ ε Nat := do
  redraw bits n (fun low => ((1 <<< bits) - n) % n ≤ low) word (← limit)

variable [Source σ]

def below32 (n : Nat) : Draw σ ε Nat := below 32 word32 n

def below64 (n : Nat) : Draw σ ε Nat := below 64 word64 n

def belowExact32 (n : Nat) : Draw σ ε Nat := belowExact 32 word32 n

def belowExact64 (n : Nat) : Draw σ ε Nat := belowExact 64 word64 n

/-! ## Ranges -/

/-- An integer from `lo` to `hi`, both 64-bit integers. Where the range is the
whole of them, a word is read as a signed integer. -/
def integerFrom (lo hi : Int) : Draw σ ε Int := do
  let width := (hi - lo + 1).toNat
  if width = 0x1_0000_0000_0000_0000 then
    let w ← word64
    return if w < 0x8000_0000_0000_0000 then (w : Int) else (w : Int) - 0x1_0000_0000_0000_0000
  else
    let offset ← below64 width
    return lo + offset

/-- An integer between `a` and `b`, in either order. -/
def intBetween (a b : Int) : Draw σ ε Int :=
  if a ≤ b then integerFrom a b else integerFrom b a

/-- A count between `a` and `b`, in either order. -/
def countBetween (a b : Nat) : Draw σ ε Nat := do
  let offset ← below64 (max a b - min a b + 1)
  return min a b + offset

/-- True or false. -/
def boolean : Draw σ ε Bool := do
  let w ← word64
  return w < 0x8000_0000_0000_0000

/-! ## Numbers with a fraction -/

/-- A number from zero up to one, of 53 random bits. -/
def unit : Draw σ ε Double := do
  let w ← word64
  return Double.ofRat false ((w / 0x800 : Nat) * (2 : Rat) ^ (-53 : Int))

/-- A number between `lo` and `hi`, interpolated so that wide ranges do not
overflow. -/
def doubleFrom (lo hi : Double) : Draw σ ε Double := do
  if lo.same hi then return lo
  else
    let t ← unit
    return (lo * (.ofInt 1 - t) + hi * t).clamp lo hi

/-- A number between `a` and `b`, in either order. -/
def doubleBetween (a b : Double) : Draw σ ε Double :=
  if a ≤ b then doubleFrom a b else doubleFrom b a

end Specimen.Draw

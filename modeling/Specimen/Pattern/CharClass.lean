/-!
# Character classes

A class of characters is a list of closed ranges in ascending order with a gap
before each but the first. Adding a range keeps that form, so equal sets have
equal lists (`CharClass.add`).

Ranges are over scalar values. A range is never empty. It may reach across the
surrogates, which are no characters, and stepping from a character to its
neighbour passes over them.
-/

namespace Specimen

/-- The characters from `lo` to `hi`. -/
structure CharRange where
  lo : Char
  hi : Char
  lo_le_hi : lo ≤ hi
deriving DecidableEq

/-- A set of characters, as ascending ranges. -/
structure CharClass where
  ranges : List CharRange
deriving DecidableEq

/-! ## Ranges -/

namespace CharRange

def contains (r : CharRange) (c : Char) : Bool := r.lo ≤ c && c ≤ r.hi

/-- The greatest character. -/
def maxChar : Char := Char.ofNat 0x10FFFF

/-- The character after `c`. -/
def above (c : Char) : Char :=
  if c.toNat = 0xD7FF then Char.ofNat 0xE000 else Char.ofNat (c.toNat + 1)

/-- The character before `c`. -/
def below (c : Char) : Char :=
  if c.toNat = 0xE000 then Char.ofNat 0xD7FF else Char.ofNat (c.toNat - 1)

/-- The range between two ends given in either order. -/
def between (a b : Char) : CharRange :=
  if h : a ≤ b then ⟨a, b, h⟩ else ⟨b, a, (Char.le_total a b).resolve_left h⟩

/-- The range with one character. -/
def single (c : Char) : CharRange := ⟨c, c, Char.le_refl c⟩

/-- How many code points lie in the range, surrogates included. -/
def size (r : CharRange) : Nat := r.hi.toNat - r.lo.toNat + 1

/-- The characters in both ranges. -/
def meet? (r s : CharRange) : Option CharRange :=
  let lo := if r.lo ≤ s.lo then s.lo else r.lo
  let hi := if r.hi ≤ s.hi then r.hi else s.hi
  if h : lo ≤ hi then some ⟨lo, hi, h⟩ else none

/-- The range from the lower of two beginnings to the higher of two ends. -/
def hull (r s : CharRange) : CharRange where
  lo := if r.lo ≤ s.lo then r.lo else s.lo
  hi := if r.hi ≤ s.hi then s.hi else r.hi
  lo_le_hi := by
    have hr := r.lo_le_hi
    have hs := s.lo_le_hi
    simp only [Char.le_def, UInt32.le_iff_toNat_le] at hr hs ⊢
    split <;> split <;> omega

/-- The characters of `r` that are not in `s`: at most a part below and a part
above. -/
def minus (r s : CharRange) : List CharRange :=
  if (r.meet? s).isNone then [r]
  else
    (if r.lo < s.lo then [between r.lo (below s.lo)] else []) ++
      (if s.hi < r.hi then [between (above s.hi) r.hi] else [])

end CharRange

namespace CharClass

/-! ## Membership -/

def empty : CharClass := ⟨[]⟩

def contains (cls : CharClass) (c : Char) : Bool := cls.ranges.any (·.contains c)

/-- The only character of a class with one. -/
def single? (cls : CharClass) : Option Char :=
  match cls.ranges with
  | [r] => if r.lo = r.hi then some r.lo else none
  | _ => none

/-- Whether every character is below a code point. -/
def isBelow (cls : CharClass) (bound : Nat) : Bool := cls.ranges.all fun r => r.hi.toNat < bound

/-! ## Union -/

/-- The ranges with one more, joined with those it touches. -/
def addRange (r : CharRange) : List CharRange → List CharRange
  | [] => [r]
  | s :: rest =>
    if r.hi.toNat + 1 < s.lo.toNat then r :: s :: rest
    else if s.hi.toNat + 1 < r.lo.toNat then s :: addRange r rest
    else addRange (r.hull s) rest

/-- The class with the characters of one more range. -/
def add (cls : CharClass) (r : CharRange) : CharClass := ⟨addRange r cls.ranges⟩

/-- The class with the characters of the given ranges, in any order. -/
def ofRanges (ranges : List CharRange) : CharClass := ranges.foldl add empty

def union (a b : CharClass) : CharClass := b.ranges.foldl add a

/-- The class of code points given as pairs of ends that are in order. -/
def ofTable (table : List (Nat × Nat)) : CharClass :=
  ⟨table.map fun (lo, hi) => .between (Char.ofNat lo) (Char.ofNat hi)⟩

/-! ## Other combinations -/

/-- The gaps after the ranges of a class, the first of them after `last`. -/
def gapsAfter (last : Char) : List CharRange → List CharRange
  | [] =>
    if last < CharRange.maxChar then [.between (CharRange.above last) CharRange.maxChar] else []
  | r :: rest => .between (CharRange.above last) (CharRange.below r.lo) :: gapsAfter r.hi rest

/-- The characters that are not in a class. -/
def negate (cls : CharClass) : CharClass :=
  match cls.ranges with
  | [] => ⟨[.between (Char.ofNat 0) CharRange.maxChar]⟩
  | r :: rest =>
    ⟨(if Char.ofNat 0 < r.lo then [.between (Char.ofNat 0) (CharRange.below r.lo)] else []) ++
      gapsAfter r.hi rest⟩

/-- The characters in both classes. -/
def inter (a b : CharClass) : CharClass :=
  ⟨a.ranges.flatMap fun r => b.ranges.filterMap r.meet?⟩

/-- The characters of `a` that are not in `b`. -/
def minus (a b : CharClass) : CharClass :=
  ⟨b.ranges.foldl (fun left s => left.flatMap (·.minus s)) a.ranges⟩

/-- The characters in just one of two classes. -/
def symmetricDifference (a b : CharClass) : CharClass := (a.union b).minus (a.inter b)

/-! ## Common classes -/

/-- Every character. -/
def all : CharClass := ⟨[.between (Char.ofNat 0) CharRange.maxChar]⟩

/-- Every character but some that end lines. -/
def allBut (chars : List Char) : CharClass := (ofRanges (chars.map .single)).negate

def digits : CharClass := ⟨[.between '0' '9']⟩

end CharClass

end Specimen

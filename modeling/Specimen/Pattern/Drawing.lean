import Specimen.Pattern.Anchors
import Specimen.Pattern.Meaning
import Specimen.Random.ChaCha
import Specimen.Random.Uniform
import Specimen.Schema.Error

/-!
# Drawing from a pattern

A random text is drawn along the expression of a pattern: the parts of a sequence
one after another, one of several alternatives, a number of repetitions. Where no
greatest count is given, a small one stands for it.

Characters of a class are biased toward those that programs trip over. Each try
takes a special character half of the time, a printable one in half of the other
cases, and one from the ranges of the class otherwise; one that is not in the
class is not taken.

The words come from a stream of their own, whose key the outer source gives, so
the outer source is used alike by all patterns.
-/

namespace Specimen.Pattern

open Draw

variable {σ ε : Type} [Source σ]

/-! ## Characters -/

/-- Characters that have a meaning in some notation. -/
def specialChars : List Char :=
  ['/', '\\', '$', '.', '*', '\x7b', '\x27', '"', '\x60', ':', '?', '%', '=', '&', '<', '\x00',
    '\t', '\r', '\n', '\x0b', '\x1b', '\x7f', '¥', 'Ѩ', 'Ⱥ', Char.ofNat 0xFEFF, Char.ofNat 0xFFFD,
    Char.ofNat 0x202E, Char.ofNat 0x1F574]

/-- Ranges of characters that are usually printed; the first is five times as
likely as the last. -/
def usualRanges : List CharRange :=
  List.replicate 5 (.between ' ' '~') ++ [.between (Char.ofNat 0x40) 'ÿ']

/-- A number below `n`, from a word and, where the rest of its product is large,
a second word that settles the carry. -/
def canonBelow (n : Nat) : Draw σ ε Nat := do
  let p := (← word32) * n
  let high := p / 0x1_0000_0000
  let low := p % 0x1_0000_0000
  if 0x1_0000_0000 - n < low then
    let carry := (← word32) * n / 0x1_0000_0000
    return if 0x1_0000_0000 ≤ low + carry then high + 1 else high
  else return high

/-- True for a word whose highest bit is set. -/
def highBit : Draw σ ε Bool := do
  return 0x8000_0000 ≤ (← word32)

/-- A code point of a range, surrogates included. -/
def codePointIn (r : CharRange) : Draw σ ε Nat := do
  return r.lo.toNat + (← canonBelow r.size)

/-- A code point from one of several ranges. Where there are none it never comes. -/
def codePointAmong (ranges : List CharRange) : Draw σ ε Nat := do
  let i ← canonBelow ranges.length
  match ranges[i]? with
  | some r => codePointIn r
  | none => endless

/-- A character from one of several ranges: code points are drawn until one is a
character. -/
def charAmong (ranges : List CharRange) : Nat → Draw σ ε Char
  | 0 => endless
  | tries + 1 => do
    let n ← codePointAmong ranges
    if n.isValidChar then return Char.ofNat n else charAmong ranges tries

/-- The class of a plain dot. -/
def dotClass : CharClass := .allBut ['\n']

/-- The ranges that a class is drawn from. For a plain dot the range above the
line end counts five times. -/
def drawnRanges (cls : CharClass) : List CharRange :=
  if cls = dotClass then
    match cls.ranges with
    | [low, high] => low :: List.replicate 5 high
    | ranges => ranges
  else cls.ranges

/-- A special character, in one half of the cases and if it is in the class. -/
def specialChar (cls : CharClass) : Draw σ ε (Option Char) := do
  if ← highBit then
    let i ← canonBelow specialChars.length
    return specialChars[i]?.filter cls.contains
  else return none

/-- A usual character, in one half of the cases and if it is in the class. -/
def usualChar (cls : CharClass) : Draw σ ε (Option Char) := do
  if ← highBit then
    let n ← codePointAmong usualRanges
    return some (Char.ofNat n) |>.filter cls.contains
  else return none

/-- A character of a class. -/
def charOf (cls : CharClass) : Draw σ ε Char := do
  match ← specialChar cls with
  | some c => return c
  | none =>
    match ← usualChar cls with
    | some c => return c
    | none => charAmong (drawnRanges cls) (← limit)

/-! ## Expressions -/

/-- The counts that a repetition is drawn from, least and greatest. -/
def countRange (min : Nat) : Option Nat → Nat × Nat
  | some max => (min, max)
  | none =>
    if min ≤ 1 then (min, 32)
    else (min, (if min < countMax / 2 then 2 * min else countMax) - 1)

/-- Takes a number of words and leaves them unused. -/
def discard : Nat → Draw σ ε Unit
  | 0 => pure ()
  | count + 1 => do
    let _ ← word32
    discard count

mutual

/-- A text along an expression. -/
def Expr.draw : Expr → Draw σ ε (List Char)
  | .empty => pure []
  | .text chars => pure chars
  | .charClass cls => do return [← charOf cls]
  | .look _ => pure []
  | .repetition min max _ body => do
    let (least, greatest) := countRange min max
    let more ← belowExact32 (greatest - least + 1)
    let pieces ← times (least + more) body.draw
    return pieces.flatten
  | .capture body => body.draw
  | .concat parts => Expr.drawAll parts
  | .alternatives branches => do
    let k ← belowExact64 branches.length
    discard (32 * k)
    Expr.drawNth k branches

/-- Texts along expressions, joined. -/
def Expr.drawAll : List Expr → Draw σ ε (List Char)
  | [] => pure []
  | e :: rest => do
    let front ← e.draw
    let back ← Expr.drawAll rest
    return front ++ back

/-- A text along one of several expressions. -/
def Expr.drawNth (k : Nat) : List Expr → Draw σ ε (List Char)
  | [] => pure []
  | e :: rest =>
    match k with
    | 0 => e.draw
    | k + 1 => Expr.drawNth k rest

end

mutual

/-- Whether texts can be drawn along an expression: it requires no places, and
its counts stay below the greatest one. -/
def Expr.checkDrawable : Expr → Except Fault Unit
  | .look _ => .error .assertionNotDrawable
  | .repetition min max _ body => do
    body.checkDrawable
    if max = some countMax then
      .error (if min = countMax then .exactCountNotDrawable else .greatestCountNotDrawable)
  | .capture body => body.checkDrawable
  | .concat parts => Expr.checkAllDrawable parts
  | .alternatives branches => Expr.checkAllDrawable branches
  | _ => .ok ()

def Expr.checkAllDrawable : List Expr → Except Fault Unit
  | [] => .ok ()
  | e :: rest => do
    e.checkDrawable
    Expr.checkAllDrawable rest

end

end Specimen.Pattern

namespace Specimen

/-! ## Patterns -/

/-- A pattern that strings can be drawn from. -/
structure Pattern where
  /-- The pattern as written. -/
  source : String
  expr : Pattern.Expr

namespace Pattern

/-- The pattern that a text denotes, its anchors and shorthands read as in
schemas. -/
def parse (source : String) : Except PatternError Pattern :=
  let read : Except Fault Expr := do
    let e ← Expr.ofText (drawnText source.toList)
    e.checkDrawable
    return e
  match read with
  | .ok expr => .ok ⟨source, expr⟩
  | .error fault => .error ⟨source, fault.message⟩

/-- Runs a draw on a fresh stream whose key a source gives. -/
def onFreshStream {σ ε α : Type} [Source σ] (x : Draw ChaCha ε α) : Draw σ ε α := do
  let key ← Draw.bytes 32
  match x.run (← Draw.limit) (ChaCha.ofKey 10 (ChaCha.keyOfBytes key)) with
  | (.ok a, _) => return a
  | (.error (.failed e), _) => Draw.fail e
  | (.error .endless, _) => Draw.endless

/-- A random text of the pattern. -/
def draw {σ ε : Type} [Source σ] (p : Pattern) : Draw σ ε String := do
  return .ofList (← onFreshStream p.expr.draw)

end Pattern

end Specimen

import Specimen.Random.Draw

/-!
# Scripted words

A source that hands out given 64-bit words and, after the last of them, the
words of the SplitMix generator. Every sequence of words can be the beginning of
what a source gives, and this source gives it.
-/

namespace Specimen

/-- Words to be handed out, and the state of the generator that follows them. -/
structure Scripted where
  words : List UInt64
  tail : UInt64

namespace Scripted

/-- The word that a state of the generator gives. -/
def mix (s : UInt64) : UInt64 :=
  let z := (s ^^^ (s >>> 30)) * 0xBF58476D1CE4E5B9
  let z := (z ^^^ (z >>> 27)) * 0x94D049BB133111EB
  z ^^^ (z >>> 31)

def next64 (s : Scripted) : UInt64 × Scripted :=
  match s.words with
  | w :: rest => (w, { s with words := rest })
  | [] =>
    let tail := s.tail + 0x9E3779B97F4A7C15
    (mix tail, { s with tail })

/-- The low half of a word; the other half is lost. -/
def next32 (s : Scripted) : UInt32 × Scripted :=
  let (w, s) := next64 s
  (w.toUInt32, s)

/-- The bytes of a word, the low one first. -/
def wordBytes (w : UInt64) : List UInt8 :=
  (List.range 8).map fun i => (w >>> (8 * i.toUInt64)).toUInt8

/-- The bytes of a number of words. -/
def nextWords (s : Scripted) : Nat → List UInt8 × Scripted
  | 0 => ([], s)
  | count + 1 =>
    let (w, s) := next64 s
    let (bs, s) := nextWords s count
    (wordBytes w ++ bs, s)

def nextBytes (count : Nat) (s : Scripted) : List UInt8 × Scripted :=
  let (bs, s) := nextWords s ((count + 7) / 8)
  (bs.take count, s)

instance : Source Scripted := ⟨next32, next64, nextBytes⟩

end Scripted

end Specimen

import Specimen.Random.Draw

/-!
# The ChaCha stream

A seeded source: the key stream of the ChaCha cipher, read as one sequence of
32-bit words. Block number `n` is a function of the key and `n` alone, and the
source holds the number of the next block and the words of the current one that
have not been taken. A 64-bit word is two words, the low one first, and bytes
are taken word by word, the low byte first.
-/

namespace Specimen

/-- A place in the stream of a key. -/
structure ChaCha where
  /-- Half the number of rounds that mix a block. -/
  doubleRounds : Nat
  key : Vector UInt32 8
  /-- The number of the next block. -/
  counter : UInt64
  /-- The words of the current block that are still to be taken. -/
  pending : List UInt32

namespace ChaCha

/-! ## Blocks -/

def rotateLeft (x : UInt32) (count : UInt32) : UInt32 := x <<< count ||| x >>> (32 - count)

/-- Mixes four words of a block. -/
def quarterRound (s : Vector UInt32 16) (a b c d : Fin 16) : Vector UInt32 16 :=
  let s := s.set a (s[a] + s[b])
  let s := s.set d (rotateLeft (s[d] ^^^ s[a]) 16)
  let s := s.set c (s[c] + s[d])
  let s := s.set b (rotateLeft (s[b] ^^^ s[c]) 12)
  let s := s.set a (s[a] + s[b])
  let s := s.set d (rotateLeft (s[d] ^^^ s[a]) 8)
  let s := s.set c (s[c] + s[d])
  s.set b (rotateLeft (s[b] ^^^ s[c]) 7)

/-- Mixes the columns and then the diagonals of a block. -/
def doubleRound (s : Vector UInt32 16) : Vector UInt32 16 :=
  let s := quarterRound s 0 4 8 12
  let s := quarterRound s 1 5 9 13
  let s := quarterRound s 2 6 10 14
  let s := quarterRound s 3 7 11 15
  let s := quarterRound s 0 5 10 15
  let s := quarterRound s 1 6 11 12
  let s := quarterRound s 2 7 8 13
  quarterRound s 3 4 9 14

/-- The block before it is mixed: four constants, the key, the block number and
a stream number of zero. -/
def initial (key : Vector UInt32 8) (counter : UInt64) : Vector UInt32 16 :=
  #v[0x61707865, 0x3320646e, 0x79622d32, 0x6b206574,
    key[0], key[1], key[2], key[3], key[4], key[5], key[6], key[7],
    counter.toUInt32, (counter >>> 32).toUInt32, 0, 0]

/-- The words of a block. -/
def block (doubleRounds : Nat) (key : Vector UInt32 8) (counter : UInt64) : List UInt32 :=
  let start := initial key counter
  let mixed := doubleRounds.repeat doubleRound start
  (Vector.zipWith (· + ·) mixed start).toList

/-! ## Words -/

/-- The next word. -/
def next32 (s : ChaCha) : UInt32 × ChaCha :=
  match s.pending with
  | w :: rest => (w, { s with pending := rest })
  | [] =>
    match block s.doubleRounds s.key s.counter with
    | w :: rest => (w, { s with counter := s.counter + 1, pending := rest })
    | [] => (0, s)

def next64 (s : ChaCha) : UInt64 × ChaCha :=
  let (low, s) := next32 s
  let (high, s) := next32 s
  (low.toUInt64 ||| high.toUInt64 <<< 32, s)

/-- The bytes of a word, the low one first. -/
def wordBytes (w : UInt32) : List UInt8 :=
  [w.toUInt8, (w >>> 8).toUInt8, (w >>> 16).toUInt8, (w >>> 24).toUInt8]

/-- The bytes of a number of words. -/
def nextWords (s : ChaCha) : Nat → List UInt8 × ChaCha
  | 0 => ([], s)
  | count + 1 =>
    let (w, s) := next32 s
    let (bs, s) := nextWords s count
    (wordBytes w ++ bs, s)

def nextBytes (count : Nat) (s : ChaCha) : List UInt8 × ChaCha :=
  let (bs, s) := nextWords s ((count + 3) / 4)
  (bs.take count, s)

instance : Source ChaCha := ⟨next32, next64, nextBytes⟩

/-! ## Keys -/

/-- The stream of a key, from its start. -/
def ofKey (doubleRounds : Nat) (key : Vector UInt32 8) : ChaCha := ⟨doubleRounds, key, 0, []⟩

/-- The word of four bytes, the low one first. -/
def ofBytes (a b c d : UInt8) : UInt32 :=
  a.toUInt32 ||| b.toUInt32 <<< 8 ||| c.toUInt32 <<< 16 ||| d.toUInt32 <<< 24

/-- The words of a text of bytes, the low byte first; bytes that fill no word are
left out. -/
def toWords : List UInt8 → List UInt32
  | a :: b :: c :: d :: rest => ofBytes a b c d :: toWords rest
  | _ => []

/-- The key that 32 bytes make; missing bytes count as zero. -/
def keyOfBytes (bs : List UInt8) : Vector UInt32 8 :=
  let words := toWords bs
  .ofFn fun i => (words[i.val]?).getD 0

/-- The state that follows a state of the key generator. -/
def stepSeed (s : UInt64) : UInt64 := s * 6364136223846793005 + 11634580027462260723

/-- The key word that a state of the key generator gives. -/
def seedWord (s : UInt64) : UInt32 :=
  let x := (((s >>> 18) ^^^ s) >>> 27).toUInt32
  let turn := (s >>> 59).toUInt32
  x >>> turn ||| x <<< ((32 - turn) % 32)

/-- The key that a seed is expanded to. -/
def keyOfSeed (seed : UInt64) : Vector UInt32 8 :=
  .ofFn fun i => seedWord ((i.val + 1).repeat stepSeed seed)

/-- The stream of a seed, mixed by twelve rounds. -/
def ofSeed (seed : UInt64) : ChaCha := ofKey 6 (keyOfSeed seed)

end ChaCha

end Specimen

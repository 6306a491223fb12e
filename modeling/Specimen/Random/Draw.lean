/-!
# Draws

A *source* hands out random words and goes into a next state; it is any state
machine with the operations of `Source`, so what holds for every source holds
for every sequence of words.

A *draw* takes words from a source and ends with a value, with a failure or not
at all. Drawing can go on for ever, because words that would make a choice uneven
are refused and drawn again; such loops, and the descent into nested schemas, go
round as often as a limit allows and otherwise end as `Stop.endless`. A draw
that stops keeps the source as it was left, so what it took stays taken.
-/

namespace Specimen

/-- A source of random words whose states are of type `σ`. -/
class Source (σ : Type) where
  /-- A word of 32 bits. -/
  next32 : σ → UInt32 × σ
  /-- A word of 64 bits. -/
  next64 : σ → UInt64 × σ
  /-- A number of bytes. -/
  bytes : Nat → σ → List UInt8 × σ

/-- Why a draw ended without a value. -/
inductive Stop (ε : Type) where
  | failed (e : ε)
  | endless

/-- A draw of a value of type `α` that can fail with an `ε`: given a limit and a
source, it ends with a value or stops, and leaves the source. -/
def Draw (σ ε α : Type) : Type := Nat → σ → Except (Stop ε) α × σ

namespace Draw

variable {σ ε α β : Type}

/-- Runs a draw. -/
def run (x : Draw σ ε α) (limit : Nat) (s : σ) : Except (Stop ε) α × σ := x limit s

/-- One draw after another. -/
def bind (x : Draw σ ε α) (f : α → Draw σ ε β) : Draw σ ε β := fun limit s =>
  match x limit s with
  | (.ok a, s) => f a limit s
  | (.error stop, s) => (.error stop, s)

instance : Monad (Draw σ ε) where
  pure a := fun _ s => (.ok a, s)
  bind := bind

/-- Stops with a failure. -/
def fail (e : ε) : Draw σ ε α := fun _ s => (.error (.failed e), s)

/-- Stops because the limit is reached. -/
def endless : Draw σ ε α := fun _ s => (.error .endless, s)

/-- How often a loop may go round. -/
def limit : Draw σ ε Nat := fun limit s => (.ok limit, s)

/-- A value that was found without drawing. -/
def ofExcept : Except ε α → Draw σ ε α
  | .ok a => pure a
  | .error e => fail e

/-- The same draw with its failures seen as failures of another type. -/
def mapError {ε' : Type} (f : ε → ε') (x : Draw σ ε α) : Draw σ ε' α := fun limit s =>
  match x limit s with
  | (.ok a, s) => (.ok a, s)
  | (.error (.failed e), s) => (.error (.failed (f e)), s)
  | (.error .endless, s) => (.error .endless, s)

/-- The results of a list of draws, one after another. -/
def sequence : List (Draw σ ε α) → Draw σ ε (List α)
  | [] => pure []
  | x :: rest => do
    let a ← x
    let as ← sequence rest
    return a :: as

/-- The results of the same draw a number of times. -/
def times (count : Nat) (x : Draw σ ε α) : Draw σ ε (List α) := sequence (List.replicate count x)

/-- The values of the same draw made up to a number of times, and why it stopped
if it did. -/
def series (x : Draw σ ε α) (limit : Nat) : Nat → σ → List α × Option (Stop ε)
  | 0, _ => ([], none)
  | count + 1, s =>
    match x limit s with
    | (.ok a, s) =>
      let (as, stop) := series x limit count s
      (a :: as, stop)
    | (.error stop, _) => ([], some stop)

variable [Source σ]

def word32 : Draw σ ε Nat := fun _ s =>
  let (w, s) := Source.next32 s
  (.ok w.toNat, s)

def word64 : Draw σ ε Nat := fun _ s =>
  let (w, s) := Source.next64 s
  (.ok w.toNat, s)

def bytes (count : Nat) : Draw σ ε (List UInt8) := fun _ s =>
  let (bs, s) := Source.bytes count s
  (.ok bs, s)

end Draw

end Specimen

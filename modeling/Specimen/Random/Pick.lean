import Specimen.Random.Uniform

/-!
# Picks from a list

Picking one item, a number of items, or a non-empty subset. Items that are
picked together stand at distinct positions and keep their order, whichever way
the positions are found: for small numbers one position is drawn after another
from a growing range (`distinctGrowing`), for large parts of a list its
positions are shuffled as far as needed (`distinctSwapping`), and few positions
of a very long list are drawn until they differ (`distinctRetrying`).
-/

namespace Specimen.Draw

variable {σ ε : Type} [Source σ]

/-- A position in a list of `n` items. -/
def position (n : Nat) : Draw σ ε Nat := if n < 0x1_0000_0000 then below32 n else below64 n

/-- An item of a list; an empty list gives none and draws nothing. -/
def element {α : Type} (items : List α) : Draw σ ε (Option α) :=
  match items with
  | [] => pure none
  | items => do
    let i ← position items.length
    return items[i]?

/-! ## Distinct positions -/

/-- Adds a position for every `top` of a list of growing positions: one drawn up
to `top`, or `top` itself if that one is taken. -/
def distinctGrowing (chosen : List Nat) : List Nat → Draw σ ε (List Nat)
  | [] => pure chosen
  | top :: rest => do
    let t ← below32 (top + 1)
    distinctGrowing (if t ∈ chosen then top :: chosen else t :: chosen) rest

/-- Brings a random one of the positions from `i` on to place `i`, for `count`
places. -/
def distinctSwapping (places : Array Nat) (i : Nat) : Nat → Draw σ ε (Array Nat)
  | 0 => pure places
  | count + 1 => do
    let offset ← below32 (places.size - i)
    distinctSwapping (places.swapIfInBounds i (i + offset)) (i + 1) count

/-- Draws positions below `n` until one is new. Low parts are refused here at
the top of their range. -/
def freshBelow (n : Nat) (chosen : List Nat) : Nat → Draw σ ε Nat
  | 0 => endless
  | tries + 1 => do
    let t ← redraw 32 n (fun low => low < 0x1_0000_0000 - (0x1_0000_0000 - n) % n) word32 (← limit)
    if t ∈ chosen then freshBelow n chosen tries else return t

/-- Adds `count` positions below `n`, each drawn until it is new. -/
def distinctRetrying (n : Nat) (chosen : List Nat) : Nat → Draw σ ε (List Nat)
  | 0 => pure chosen
  | count + 1 => do
    let t ← freshBelow n chosen (← limit)
    distinctRetrying n (t :: chosen) count

/-- The ways to find distinct positions. -/
inductive Selection where
  | growing
  | swapping
  | retrying
deriving DecidableEq

/-- How `k` positions below `n` are found. -/
def Selection.of (n k : Nat) : Selection :=
  if k < 163 then
    if 11 < k ∧ 5 * n < (50 + 8 * k) * k then .swapping else .growing
  else if n < 270 * k then .swapping
  else .retrying

/-- Takes the words that putting `k` positions into random order takes. The
order is of no account here, but the words are gone. -/
def discardShuffle : Nat → Draw σ ε Unit
  | 0 => pure ()
  | k + 1 => do
    if k = 0 then return ()
    let _ ← below32 (k + 1)
    discardShuffle k

/-- Distinct positions, `k` of them below `n`, in no order. -/
def distinct (n k : Nat) : Draw σ ε (List Nat) :=
  match Selection.of n k with
  | .growing => do
    let chosen ← distinctGrowing [] (List.range' (n - k) k)
    if 50 ≤ k then discardShuffle k
    return chosen
  | .swapping => do
    let places ← distinctSwapping (Array.range n) 0 k
    return places.toList.take k
  | .retrying => distinctRetrying n [] k

/-! ## Several items -/

/-- The items whose positions, counted from `start`, are chosen. -/
def keepAt {α : Type} (chosen : List Nat) (start : Nat) : List α → List α
  | [] => []
  | item :: rest =>
    if start ∈ chosen then item :: keepAt chosen (start + 1) rest
    else keepAt chosen (start + 1) rest

/-- As many items as asked for, or all of them if there are fewer, in their
order. -/
def elements {α : Type} (items : List α) (count : Nat) : Draw σ ε (List α) := do
  let chosen ← distinct items.length (min count items.length)
  return keepAt chosen 0 items

/-- At least one item, unless there is none, in their order. -/
def subset {α : Type} (items : List α) : Draw σ ε (List α) :=
  match items with
  | [] => pure []
  | items => do
    let more ← below64 items.length
    elements items (1 + more)

end Specimen.Draw

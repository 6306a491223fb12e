import Specimen.Yaml.Text

/-!
# Block scalars

A block scalar is all the lines below its header that are indented at least as
far as its first line, or as the header says. Literal scalars keep their breaks;
in folded ones a break between two lines that start with no blank is a space.
The header also says which breaks at the end are kept.
-/

namespace Specimen.Yaml.BlockScalar

/-- Which of the breaks at the end are kept. -/
inductive Chomping where
  | none
  | one
  | all
deriving DecidableEq

/-- The header of a block scalar. -/
structure Header where
  chomping : Chomping := .one
  /-- How much further than the block around it the scalar is indented. -/
  increment : Option Nat := none

def chomping? (p : Place) : Option (Chomping × Place) :=
  match p.front? with
  | some '+' => some (.all, p.skip 1)
  | some '-' => some (.none, p.skip 1)
  | _ => none

/-- The indentation in front, if there is one; it is an error for it to be zero. -/
def increment? (p : Place) : Option (Option Nat × Place) :=
  match p.front? with
  | some '0' => none
  | some c => if c.isDigit then some (some (c.toNat - '0'.toNat), p.skip 1) else some (none, p)
  | none => some (none, p)

/-- The header from behind the indicator, in either order of its two parts. -/
def header? (p : Place) : Option (Header × Place) :=
  match chomping? p with
  | some (chomping, p) => do
    let (increment, p) ← increment? p
    return (⟨chomping, increment⟩, p)
  | none => do
    match ← increment? p with
    | (some n, p) =>
      let (chomping, p) := (chomping? p).getD (.one, p)
      return (⟨chomping, some n⟩, p)
    | (none, p) => return ({}, p)

/-- The start of the line below the header, which may end with a comment. -/
def nextLine? (p : Place) : Option Place :=
  let p := p.skipWhile isBlank
  let p := if p.front? = some '#' then p.skipLine else p
  match p.breakLine? with
  | some (_, p) => some p
  | none => if p.rest.isEmpty then some p else none

/-- The empty lines in front, after `breaks`, and the place after the indentation
of the line below them. While the indentation is not known it is the widest seen,
`widest` at the least; a tab must not stand in it. -/
def skipEmpty? (indent : Option Nat) : Nat → Nat → List Char → Place →
    Option (Nat × List Char × Place)
  | 0, _, _, _ => none
  | fuel + 1, widest, breaks, p =>
    let room := match indent with
      | some n => n - p.column
      | none => p.rest.length
    let p := p.skip ((p.rest.take room).takeWhile (· = ' ')).length
    let widest := max widest p.column
    let inside := match indent with
      | some n => decide (p.column < n)
      | none => true
    if inside && p.front? = some '\t' then none
    else
      match p.breakLine? with
      | some (c, p) => skipEmpty? indent fuel widest (breaks ++ [c]) p
      | none => some (widest, breaks, p)

/-- The breaks between two lines. -/
def joint (folded : Bool) (first : Option Char) (others : List Char) : List Char :=
  if folded && first = some '\n' then if others.isEmpty then [' '] else others
  else first.toList ++ others

/-- The lines from the one in front, after what is in reverse in `done`, and the
breaks after the last one. `first` and `others` are the breaks before the line in
front, and `blankBefore` says whether the line before them starts with a blank. -/
def lines? (isFolded : Bool) (indent : Nat) :
    Nat → Bool → List Char → Option Char → List Char → Place →
    Option (List Char × Option Char × List Char × Place)
  | 0, _, _, _, _, _ => none
  | fuel + 1, blankBefore, done, first, others, p =>
    if p.column != indent || p.rest.isEmpty then some (done, first, others, p)
    else
      let blank := p.front?.any isBlank
      let joined := joint (isFolded && !blankBefore && !blank) first others
      let (line, p) := p.span fun c => !isBreak c
      let done := line.reverse ++ joined.reverse ++ done
      let (first, p) := match p.breakLine? with
        | some (c, p) => (some c, p)
        | none => (none, p)
      match skipEmpty? (some indent) (p.rest.length + 1) 0 [] p with
      | none => none
      | some (_, others, p) => lines? isFolded indent fuel blank done first others p

/-- A block scalar from behind its indicator, inside a block with the given
indentation. -/
def read? (isFolded : Bool) (outer : Int) (p : Place) : Option (String × Place) := do
  let (header, p) ← header? p
  let p ← nextLine? p
  let given := header.increment.map fun n => (max outer 0).toNat + n
  let (widest, others, p) ← skipEmpty? given (p.rest.length + 1) 0 [] p
  let indent := given.getD (max widest (max (outer + 1) 1).toNat)
  let (done, first, others, p) ← lines? isFolded indent (p.rest.length + 1) false [] none others p
  let kept := match header.chomping with
    | .none => []
    | .one => first.toList
    | .all => first.toList ++ others
  return (.ofList (done.reverse ++ kept), p)

end Specimen.Yaml.BlockScalar

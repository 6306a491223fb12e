import Specimen.Pieces

/-!
# Paths

A path keeps the text it was written as, which is what messages show, and means
the list of its components, by which paths are compared. Repeated slashes, a
slash at the end and dots inside a path do not count; a dot at the front and
double dots do, since nothing is looked up to resolve them.
-/

namespace Specimen

/-- A path as written. -/
structure Path where
  text : String
deriving DecidableEq, Inhabited

namespace Path

/-- A step of a path. -/
inductive Component where
  | root
  | current
  | parent
  | name (s : List Char)
deriving DecidableEq

/-- What a piece after the first stands for, if it counts. -/
def component? (piece : List Char) : Option Component :=
  if piece = [] ∨ piece = ['.'] then none
  else if piece = ['.', '.'] then some .parent
  else some (.name piece)

/-- The steps of a path. -/
def components (p : Path) : List Component :=
  match pieces '/' p.text.toList with
  | [] => []
  | [[]] => []
  | [] :: rest => .root :: rest.filterMap component?
  | ['.'] :: rest => .current :: rest.filterMap component?
  | all => all.filterMap component?

/-- Whether two paths have the same steps. -/
def same (p q : Path) : Bool := p.components == q.components

def isAbsolute (p : Path) : Bool := p.text.toList.head? == some '/'

/-- The path `p` seen from the directory `base`. An absolute path stands for
itself, and otherwise one slash goes between the two. -/
def join (base p : Path) : Path :=
  if p.isAbsolute || base.text.isEmpty then p
  else if base.text.toList.getLast? = some '/' then ⟨base.text ++ p.text⟩
  else ⟨base.text ++ "/" ++ p.text⟩

/-- Drops, from a reversed list of pieces, the pieces that do not count at the
end of a path. The first piece of the path always stays. -/
def dropUncounted : List (List Char) → List (List Char)
  | [] => []
  | [first] => [first]
  | piece :: next :: rest =>
    if piece = [] ∨ piece = ['.'] then dropUncounted (next :: rest) else piece :: next :: rest

/-- The path without its last step; the root and the empty path have none. -/
def parent? (p : Path) : Option Path :=
  match dropUncounted (pieces '/' p.text.toList).reverse with
  | [] => none
  | [first] => if first = [] then none else some ⟨""⟩
  | _ :: rest =>
    match dropUncounted rest with
    | [[]] => some ⟨"/"⟩
    | kept => some ⟨.ofList (unpieces '/' kept.reverse)⟩

/-- The part of a file name after its last dot. A name whose only dot is its
first character has none. -/
def extension? (p : Path) : Option (List Char) :=
  match p.components.getLast? with
  | some (.name s) =>
    let reversed := s.reverse.span (· != '.')
    match reversed.2 with
    | '.' :: _ :: _ => some reversed.1.reverse
    | _ => none
  | _ => none

end Path

end Specimen

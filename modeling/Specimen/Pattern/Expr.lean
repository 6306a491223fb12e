import Specimen.Pattern.CharClass

/-!
# Pattern expressions

What a pattern means, without the ways in which it can be written. Expressions
are built by the functions of this module, which keep them simple: parts of a
sequence are no sequences and adjacent texts are one, a class of one character
is a text, alternatives of single characters or of classes are a class, and
alternatives that begin alike share their beginning. The form matters, because a
sample is drawn along it.
-/

namespace Specimen.Pattern

/-- A place between two characters that an expression may require. -/
inductive Look where
  | textStart
  | textEnd
  | lineStart (crlf : Bool)
  | lineEnd (crlf : Bool)
  | wordBoundary (unicode : Bool)
  | notWordBoundary (unicode : Bool)
  | wordStart (unicode : Bool)
  | wordEnd (unicode : Bool)
  | wordStartHalf (unicode : Bool)
  | wordEndHalf (unicode : Bool)
deriving DecidableEq

/-- The meaning of a pattern. -/
inductive Expr where
  | empty
  | text (chars : List Char)
  | charClass (cls : CharClass)
  | look (l : Look)
  | repetition (min : Nat) (max : Option Nat) (greedy : Bool) (body : Expr)
  | capture (body : Expr)
  | concat (parts : List Expr)
  | alternatives (branches : List Expr)

namespace Expr

/-! ## Equality -/

mutual

/-- Whether two expressions are equal. Captures are told apart by their place,
so no two of them are. -/
def same : Expr → Expr → Bool
  | .empty, .empty => true
  | .text a, .text b => a == b
  | .charClass a, .charClass b => a == b
  | .look a, .look b => a == b
  | .repetition min max greedy body, .repetition min' max' greedy' body' =>
    min == min' && max == max' && greedy == greedy' && same body body'
  | .concat a, .concat b => sameAll a b
  | .alternatives a, .alternatives b => sameAll a b
  | _, _ => false

def sameAll : List Expr → List Expr → Bool
  | [], [] => true
  | a :: as, b :: bs => same a b && sameAll as bs
  | _, _ => false

end

/-! ## Classes and repetitions -/

/-- The expression of a class: of one character, its text. -/
def ofClass (cls : CharClass) : Expr :=
  match cls.single? with
  | some c => .text [c]
  | none => .charClass cls

mutual

/-- Whether the expression takes up no characters, whatever it matches. -/
def isWeightless : Expr → Bool
  | .empty => true
  | .look _ => true
  | .repetition _ _ _ body => isWeightless body
  | .capture body => isWeightless body
  | .concat parts => allWeightless parts
  | .alternatives branches => allWeightless branches
  | _ => false

def allWeightless : List Expr → Bool
  | [] => true
  | e :: rest => isWeightless e && allWeightless rest

end

/-- The repetition of an expression. One that takes up no characters is repeated
at most once, and repeating once is not repeating. -/
def ofRepetition (min : Nat) (max : Option Nat) (greedy : Bool) (body : Expr) : Expr :=
  let (min, max) :=
    if body.isWeightless then (Nat.min min 1, some ((max.map (Nat.min · 1)).getD 1))
    else (min, max)
  if min = 0 ∧ max = some 0 then .empty
  else if min = 1 ∧ max = some 1 then body
  else .repetition min max greedy body

/-! ## Sequences -/

/-- The parts that an expression adds to a sequence. -/
def parts : Expr → List Expr
  | .empty => []
  | .concat parts => parts
  | e => [e]

/-- Parts with adjacent texts joined. -/
def joinTexts : List Expr → List Expr
  | [] => []
  | .text a :: rest =>
    match joinTexts rest with
    | .text b :: more => .text (a ++ b) :: more
    | more => .text a :: more
  | e :: rest => e :: joinTexts rest

/-- Expressions one after another. -/
def ofParts (es : List Expr) : Expr :=
  match joinTexts (es.flatMap parts) with
  | [] => .empty
  | [e] => e
  | es => .concat es

/-! ## Alternatives -/

/-- The branches that an expression adds to alternatives. -/
def branches : Expr → List Expr
  | .alternatives branches => branches
  | e => [e]

/-- The character of a text with one. -/
def char? : Expr → Option Char
  | .text [c] => some c
  | _ => none

def class? : Expr → Option CharClass
  | .charClass cls => some cls
  | _ => none

/-- The values of a function on all members of a list, if it has them. -/
def onAll {α : Type} (f : Expr → Option α) : List Expr → Option (List α)
  | [] => some []
  | e :: rest =>
    match f e, onAll f rest with
    | some a, some as => some (a :: as)
    | _, _ => none

/-- The class that alternatives make: all single characters, or all classes. -/
def classOf? (es : List Expr) : Option CharClass :=
  match onAll char? es with
  | some chars => some (.ofRanges (chars.map .single))
  | none => (onAll class? es).map fun classes => classes.foldl .union .empty

def sequence? : Expr → Option (List Expr)
  | .concat parts => some parts
  | _ => none

/-- How many parts two sequences have in common at their front. -/
def commonLength : List Expr → List Expr → Nat
  | a :: as, b :: bs => if same a b then commonLength as bs + 1 else 0
  | _, _ => 0

/-- The beginning that sequences share, if it is not empty, and their rests. -/
def commonFront? : List (List Expr) → Option (List Expr × List (List Expr))
  | [] => none
  | first :: rest =>
    let length := rest.foldl (fun n parts => min n (commonLength first parts)) first.length
    if length = 0 then none
    else some (first.take length, (first :: rest).map (·.drop length))

/-- Alternatives that share no beginning. -/
def ofDistinct (es : List Expr) : Expr :=
  match es.flatMap branches with
  | [] => .charClass .empty
  | [e] => e
  | es =>
    match classOf? es with
    | some cls => ofClass cls
    | none => .alternatives es

/-- Takes the common beginning out of alternatives, `rounds` times over. -/
def factor : Nat → List Expr → Expr
  | 0, es => ofDistinct es
  | rounds + 1, es =>
    match es.flatMap branches with
    | [] => .charClass .empty
    | [e] => e
    | es =>
      match classOf? es with
      | some cls => ofClass cls
      | none =>
        match (onAll sequence? es).bind commonFront? with
        | none => .alternatives es
        | some (front, rests) => ofParts (front ++ [factor rounds (rests.map ofParts)])

mutual

/-- The number of nodes of an expression. -/
def size : Expr → Nat
  | .repetition _ _ _ body => size body + 1
  | .capture body => size body + 1
  | .concat parts => sizes parts + 1
  | .alternatives branches => sizes branches + 1
  | _ => 1

def sizes : List Expr → Nat
  | [] => 0
  | e :: rest => size e + sizes rest

end

/-- One of several expressions. Every beginning that is taken out leaves fewer
nodes, so their number bounds how often that is done. -/
def ofBranches (es : List Expr) : Expr := factor (sizes es) es

end Expr

end Specimen.Pattern

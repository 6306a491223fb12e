import Specimen.Digits
import Specimen.Json.Basic
import Specimen.Pieces

/-!
# Pointers

A pointer names a place inside a document by the steps that lead to it: names of
fields and positions of items. In its text every step follows a slash, and the
two characters that would be misread, the slash and the tilde, are written `~1`
and `~0`.
-/

namespace Specimen.Pointer

/-- A step with its escapes undone. -/
def unescape : List Char → List Char
  | [] => []
  | '~' :: '0' :: rest => '~' :: unescape rest
  | '~' :: '1' :: rest => '/' :: unescape rest
  | c :: rest => c :: unescape rest

/-- The position that a step names in an array: decimal digits, with no zero in
front of others. -/
def index? (step : List Char) : Option Nat :=
  match step with
  | [] => none
  | ['0'] => some 0
  | '0' :: _ => none
  | _ =>
    if step.all Char.isDigit then
      some (Digits.decimal step)
    else none

/-- The value that one step leads to. -/
def step? (d : Json) (step : List Char) : Option Json :=
  match d with
  | .object fields => Fields.get? fields (.ofList step)
  | .array items => (index? step).bind fun i => items[i]?
  | _ => none

/-- The value that a list of steps leads to. -/
def follow? (d : Json) : List (List Char) → Option Json
  | [] => some d
  | step :: rest => (step? d step).bind (follow? · rest)

/-- The steps of a pointer. The slash in front of the first may be left out, and
the empty pointer has none. -/
def steps (pointer : List Char) : List (List Char) :=
  match pointer with
  | [] => []
  | '/' :: rest => (pieces '/' rest).map unescape
  | text => (pieces '/' text).map unescape

end Pointer

/-- The value that a pointer names in a document. -/
def Json.walk? (d : Json) (pointer : String) : Option Json :=
  Pointer.follow? d (Pointer.steps pointer.toList)

end Specimen

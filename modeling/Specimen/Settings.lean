import Specimen.Path

/-!
# Settings

The choices that samples of all schemas are made under.
-/

namespace Specimen

/-- How multiples of a step are drawn from a range. -/
inductive Multiples where
  /-- A number in the range is drawn and multiplied, which can leave the range. -/
  | scale
  /-- A factor is drawn whose multiple lies in the range. -/
  | strict
deriving DecidableEq

def Multiples.name : Multiples → String
  | .scale => "scale"
  | .strict => "strict"

def Multiples.ofName? : String → Option Multiples
  | "scale" => some .scale
  | "strict" => some .strict
  | _ => none

/-- Where pointers of references start. -/
inductive RefScope where
  /-- The nearest schema around the reference. -/
  | enclosing
  /-- The root of the document. -/
  | document
deriving DecidableEq

def RefScope.name : RefScope → String
  | .enclosing => "enclosing"
  | .document => "document"

def RefScope.ofName? : String → Option RefScope
  | "enclosing" => some .enclosing
  | "document" => some .document
  | _ => none

/-- The settings of a sampler. -/
structure Settings where
  /-- The directory that paths in references start from, if it is set. -/
  schemaDir : Option Path := none
  multiples : Multiples := .scale
  refScope : RefScope := .enclosing
deriving DecidableEq

end Specimen

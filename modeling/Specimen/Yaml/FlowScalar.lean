import Specimen.Digits
import Specimen.Yaml.Text

/-!
# Scalars on several lines

A plain or a quoted scalar is a sequence of words with gaps between them. A gap
on one line is kept. A gap with one break is a space, and one with more is the
breaks after the first.

The loops carry an amount of fuel. Each round takes a character off the text, so
the length of what is left is enough.
-/

namespace Specimen.Yaml

/-! ## Gaps -/

/-- What stands between two words. -/
structure Gap where
  /-- The blanks, if there is no break. -/
  blanks : List Char := []
  broken : Bool := false
  /-- The first break. -/
  first : Option Char := none
  /-- The other breaks. -/
  others : List Char := []

namespace Gap

/-- What a gap reads as. -/
def text (g : Gap) : List Char :=
  if g.broken then
    if g.first = some '\n' then if g.others.isEmpty then [' '] else g.others
    else g.first.toList ++ g.others
  else g.blanks

/-- A gap with a break in it. -/
def addBreak (c : Char) (g : Gap) : Gap :=
  if g.broken then { g with others := g.others ++ [c] }
  else { broken := true, first := some c }

/-- The gap in front, after `g`. In the indentation of a block, which is left of
`indent`, there must be no tab. -/
def read? (indent : Int) : Nat → Gap → Place → Option (Gap × Place)
  | 0, _, _ => none
  | fuel + 1, g, p =>
    match p.breakLine? with
    | some (c, p) => read? indent fuel (g.addBreak c) p
    | none =>
      match p.front? with
      | some c =>
        if !isBlank c then some (g, p)
        else if !g.broken then read? indent fuel { g with blanks := g.blanks ++ [c] } (p.skip 1)
        else if c = '\t' && decide (p.column < indent) then none
        else read? indent fuel g (p.skip 1)
      | none => some (g, p)

end Gap

/-! ## Plain scalars -/

namespace Plain

def isFlowIndicator (c : Char) : Bool :=
  c = ',' || c = '[' || c = ']' || c = '\x7b' || c = '\x7d'

/-- The word in front, in reverse before `done`. It ends at a colon that ends a
key. In a flow collection it also ends at the indicators of flow, and a colon
before one of them is an error. -/
def word? (flow : Bool) : Nat → List Char → Place → Option (List Char × Place)
  | 0, _, _ => none
  | fuel + 1, done, p =>
    match p.front? with
    | none => some (done, p)
    | some c =>
      if isBlank c || isBreak c then some (done, p)
      else if flow && c = ':' && (p.second?.any fun d => d = '?' || isFlowIndicator d) then none
      else if (c = ':' && endsWord p.second?) || (flow && isFlowIndicator c) then some (done, p)
      else word? flow fuel (c :: done) (p.skip 1)

/-- A plain scalar in a block indented by less than `indent`, and whether the
place after it is on a later line. A comment, the mark of a document and a line
with less indentation end it. -/
def read? (flow : Bool) (indent : Int) : Nat → List Char → Gap → Place →
    Option (String × Bool × Place)
  | 0, _, _, _ => none
  | fuel + 1, done, gap, p =>
    let finish (gap : Gap) (done : List Char) (p : Place) :=
      (String.ofList done.reverse, gap.broken, p)
    if p.atDocumentMark || p.front? = some '#' then some (finish gap done p)
    else
      match word? flow (p.rest.length + 1) [] p with
      | none => none
      | some ([], p) => some (finish gap done p)
      | some (word, p) =>
        let done := word ++ gap.text.reverse ++ done
        match Gap.read? indent (p.rest.length + 1) {} p with
        | none => none
        | some (gap, next) =>
          if next.index = p.index then some (finish {} done p)
          else if !flow && decide (next.column < indent) then some (finish gap done next)
          else read? flow indent fuel done gap next

end Plain

/-! ## Quoted scalars -/

namespace Quoted

/-- The character that a number of hexadecimal digits name. -/
def hexChar? (count : Nat) (p : Place) : Option (Char × Place) := do
  let digits ← (p.rest.take count).mapM Digits.hexValue?
  let n := digits.foldl (16 * · + ·) 0
  if digits.length = count ∧ n.isValidChar then some (Char.ofNat n, p.skip count) else none

/-- The character that the characters after a backslash stand for. -/
def escape? (p : Place) : Option (Char × Place) :=
  let is (c : Char) := some (c, p.skip 1)
  match p.front? with
  | some '0' => is '\x00'
  | some 'a' => is '\x07'
  | some 'b' => is '\x08'
  | some 't' => is '\t'
  | some '\t' => is '\t'
  | some 'n' => is '\n'
  | some 'v' => is '\x0b'
  | some 'f' => is '\x0c'
  | some 'r' => is '\r'
  | some 'e' => is '\x1b'
  | some ' ' => is ' '
  | some '"' => is '"'
  | some '/' => is '/'
  | some '\\' => is '\\'
  | some 'N' => is '\u0085'
  | some '_' => is '\u00a0'
  | some 'L' => is '\u2028'
  | some 'P' => is '\u2029'
  | some 'x' => hexChar? 2 (p.skip 1)
  | some 'u' => hexChar? 4 (p.skip 1)
  | some 'U' => hexChar? 8 (p.skip 1)
  | _ => none

/-- The word in front, in reverse before `done`, and the gap that follows if it
ends with an escaped break. A single quote is written twice between single
quotes, and between double quotes there are escapes. -/
def word? (single : Bool) : Nat → List Char → Place → Option (List Char × Gap × Place)
  | 0, _, _ => none
  | fuel + 1, done, p =>
    match p.front? with
    | none => some (done, {}, p)
    | some c =>
      if isBlank c || isBreak c then some (done, {}, p)
      else if single then
        if c != '\x27' then word? single fuel (c :: done) (p.skip 1)
        else if p.second? = some '\x27' then word? single fuel (c :: done) (p.skip 2)
        else some (done, {}, p)
      else if c = '"' then some (done, {}, p)
      else if c = '\\' then
        match (p.skip 1).breakLine? with
        | some (_, p) => some (done, { broken := true }, p)
        | none =>
          match escape? (p.skip 1) with
          | some (c, p) => word? single fuel (c :: done) p
          | none => none
      else word? single fuel (c :: done) (p.skip 1)

/-- A quoted scalar from behind its opening quote. No document may start or end
within it. -/
def read? (single : Bool) : Nat → List Char → Place → Option (String × Place)
  | 0, _, _ => none
  | fuel + 1, done, p =>
    if p.atDocumentMark || p.rest.isEmpty then none
    else
      match word? single (p.rest.length + 1) done p with
      | none => none
      | some (done, gap, p) =>
        if p.front? = some (if single then '\x27' else '"') then
          some (.ofList done.reverse, p.skip 1)
        else
          match Gap.read? 0 (p.rest.length + 1) gap p with
          | none => none
          | some (gap, p) => read? single fuel (gap.text.reverse ++ done) p

end Quoted

end Specimen.Yaml

import Specimen.Yaml.BlockScalar
import Specimen.Yaml.FlowScalar
import Specimen.Yaml.Property

/-!
# Tokens of a text

Block collections are found by their columns. The lexer keeps the columns of the
open ones: an entry or a key further to the right opens another, and a token
further to the left closes those it is left of. Inside flow collections columns
do not count.

A key often shows only by the colon behind it. So the lexer keeps, for every open
flow collection and for the block around them, where such a key may have started
(`Candidate`). The colon then puts the missing tokens in front of the candidate.
-/

namespace Specimen.Yaml

/-- A node that is a key if a colon follows it on its line, at a distance of at
most 1024 characters. -/
structure Candidate where
  /-- How many tokens there are before it. -/
  position : Nat
  /-- Whether nothing else can stand there. -/
  required : Bool
  index : Nat
  line : Nat
  column : Nat

/-- How far a text has been taken apart. -/
structure Lexer where
  place : Place
  /-- The column of the innermost block collection, or -1. -/
  indent : Int := -1
  /-- The columns of the block collections around it. -/
  outer : List Int := []
  candidate : Option Candidate := none
  /-- The candidates of the collections around the innermost flow collection. -/
  outerCandidates : List (Option Candidate) := []
  /-- Whether a key may start at the place. -/
  keyAllowed : Bool := true
  tokens : Array Token := #[]

namespace Lexer

def inFlow (l : Lexer) : Bool := !l.outerCandidates.isEmpty

def emit (token : Token) (l : Lexer) : Lexer := { l with tokens := l.tokens.push token }

/-- The lexer after a token of `count` characters. -/
def take (count : Nat) (token : Token) (l : Lexer) : Lexer :=
  { l.emit token with place := l.place.skip count }

/-- The lexer after a token that `read` takes off the text. -/
def takeRead (read : Option (Token × Place)) (l : Lexer) : Option Lexer :=
  read.map fun (token, place) => { l.emit token with place }

/-! ## Blanks between tokens -/

/-- Passes over blanks, comments and breaks. In a block a tab is no blank where a
key may start. -/
def skipToToken : Nat → Lexer → Lexer
  | 0, l => l
  | fuel + 1, l =>
    let p := l.place
    let p := if p.column = 0 ∧ p.front? = some '\ufeff' then p.skip 1 else p
    let p := p.skipWhile fun c => c = ' ' || (c = '\t' && (l.inFlow || !l.keyAllowed))
    let p := if p.front? = some '#' then p.skipLine else p
    match p.breakLine? with
    | some (_, place) => skipToToken fuel { l with place, keyAllowed := l.keyAllowed || !l.inFlow }
    | none => { l with place := p }

/-! ## Block collections -/

/-- Opens a block collection at a column, if the place is right of the innermost
one. Its first token goes to a position among the tokens. -/
def openBlock (column position : Nat) (start : Token) (l : Lexer) : Lexer :=
  if l.inFlow || decide ((column : Int) ≤ l.indent) then l
  else
    { l with
      indent := column
      outer := l.indent :: l.outer
      tokens := l.tokens.insertIdxIfInBounds position start }

/-- Closes the block collections right of a column. -/
def closeBlocks (column : Int) (l : Lexer) : Lexer :=
  if l.inFlow then l else go l.indent l.outer l
where
  go (indent : Int) (outer : List Int) (l : Lexer) : Lexer :=
    if indent ≤ column then { l with indent, outer }
    else
      match outer with
      | [] => { (l.emit .blockEnd) with indent := -1, outer := [] }
      | next :: outer => go next outer (l.emit .blockEnd)

/-! ## Candidates for keys -/

/-- Gives the candidate up. One that is required must not be given up. -/
def dropCandidate? (l : Lexer) : Option Lexer :=
  if l.candidate.any (·.required) then none else some { l with candidate := none }

/-- Makes the place a candidate, if a key may start there. -/
def saveCandidate? (l : Lexer) : Option Lexer :=
  if l.keyAllowed then do
    let l ← l.dropCandidate?
    return { l with candidate := some {
      position := l.tokens.size
      required := !l.inFlow && decide (l.indent = l.place.column)
      index := l.place.index
      line := l.place.line
      column := l.place.column } }
  else some l

/-- Whether a candidate is too far back to be a key. -/
def isStale (p : Place) (c : Candidate) : Bool :=
  decide (c.line < p.line) || decide (c.index + 1024 < p.index)

/-- Gives up the candidates that are too far back. -/
def dropStale? (l : Lexer) : Option Lexer :=
  let keep (c : Option Candidate) := c.filter fun c => !isStale l.place c
  if (l.candidate :: l.outerCandidates).any (·.any fun c => c.required && isStale l.place c) then
    none
  else
    some { l with candidate := keep l.candidate, outerCandidates := l.outerCandidates.map keep }

/-! ## Tokens -/

/-- The end of the text closes everything. -/
def finish? (l : Lexer) : Option Lexer := (l.closeBlocks (-1)).dropCandidate?

def directive? (l : Lexer) : Option Lexer := do
  let l ← (l.closeBlocks (-1)).dropCandidate?
  takeRead (Directive.read? l.place) { l with keyAllowed := false }

def documentMark? (token : Token) (l : Lexer) : Option Lexer := do
  let l ← (l.closeBlocks (-1)).dropCandidate?
  return { l with keyAllowed := false }.take 3 token

def openFlow? (token : Token) (l : Lexer) : Option Lexer := do
  let l ← l.saveCandidate?
  return { l with
    candidate := none
    outerCandidates := l.candidate :: l.outerCandidates
    keyAllowed := true }.take 1 token

def closeFlow? (token : Token) (l : Lexer) : Option Lexer := do
  let l ← l.dropCandidate?
  let l := match l.outerCandidates with
    | [] => l
    | candidate :: outerCandidates => { l with candidate, outerCandidates }
  return { l with keyAllowed := false }.take 1 token

def flowEntry? (l : Lexer) : Option Lexer := do
  let l ← l.dropCandidate?
  return { l with keyAllowed := true }.take 1 .flowEntry

/-- An indicator that opens a block collection where none is open. -/
def blockIndicator? (start token : Token) (keyAllowed : Bool) (l : Lexer) : Option Lexer :=
  if !l.inFlow && !l.keyAllowed then none
  else do
    let l ← (l.openBlock l.place.column l.tokens.size start).dropCandidate?
    return { l with keyAllowed }.take 1 token

def value? (l : Lexer) : Option Lexer :=
  match l.candidate with
  | some c =>
    let l := { l with
      candidate := none
      keyAllowed := false
      tokens := l.tokens.insertIdxIfInBounds c.position .key }
    some ((l.openBlock c.column c.position .blockMappingStart).take 1 .value)
  | none => l.blockIndicator? .blockMappingStart .value (!l.inFlow)

/-- A node or a property of one, which `read` takes off the text. -/
def node? (read : Place → Option (Token × Place)) (l : Lexer) : Option Lexer := do
  let l ← l.saveCandidate?
  takeRead (read l.place) { l with keyAllowed := false }

def blockScalar? (isFolded : Bool) (l : Lexer) : Option Lexer := do
  let l ← l.dropCandidate?
  let style : Style := if isFolded then .folded else .literal
  takeRead ((BlockScalar.read? isFolded l.indent (l.place.skip 1)).map fun (text, p) =>
    (.scalar text style, p)) { l with keyAllowed := true }

def quoted? (single : Bool) : Lexer → Option Lexer :=
  node? fun p => (Quoted.read? single (p.rest.length + 1) [] (p.skip 1)).map fun (text, p) =>
    (.scalar text .quoted, p)

def plain? (l : Lexer) : Option Lexer := do
  let l ← l.saveCandidate?
  let (text, broken, place) ←
    Plain.read? l.inFlow (l.indent + 1) (l.place.rest.length + 1) [] {} l.place
  return { l.emit (.scalar text .plain) with place, keyAllowed := broken }

/-- Whether a plain scalar may start with a character, given what follows it. -/
def startsPlain (flow : Bool) (c : Char) (next : Option Char) : Bool :=
  if c = '-' then !(next.any isBlank)
  else if c = '?' || c = ':' then !flow && !endsWord next
  else !isBlank c && !isBreak c && !",[]\x7b\x7d#&*!|>\x27\"%@\x60".toList.contains c

/-- The lexer after the token that starts with `c`. -/
def token? (c : Char) (l : Lexer) : Option Lexer :=
  let p := l.place
  let ends := endsWord p.second?
  if c = '%' && p.column = 0 then l.directive?
  else if p.atMark '-' then l.documentMark? .documentStart
  else if p.atMark '.' then l.documentMark? .documentEnd
  else if c = '[' then l.openFlow? .flowSequenceStart
  else if c = '\x7b' then l.openFlow? .flowMappingStart
  else if c = ']' then l.closeFlow? .flowSequenceEnd
  else if c = '\x7d' then l.closeFlow? .flowMappingEnd
  else if c = ',' then l.flowEntry?
  else if c = '-' && ends then l.blockIndicator? .blockSequenceStart .blockEntry true
  else if c = '?' && (l.inFlow || ends) then l.blockIndicator? .blockMappingStart .key (!l.inFlow)
  else if c = ':' && (l.inFlow || ends) then l.value?
  else if c = '*' then
    l.node? fun p => (anchorName? (p.skip 1)).map fun (name, p) => (.reference name, p)
  else if c = '&' then
    l.node? fun p => (anchorName? (p.skip 1)).map fun (name, p) => (.anchor name, p)
  else if c = '!' then l.node? (Tag.read? l.inFlow)
  else if c = '|' && !l.inFlow then l.blockScalar? false
  else if c = '>' && !l.inFlow then l.blockScalar? true
  else if c = '\x27' then l.quoted? true
  else if c = '"' then l.quoted? false
  else if startsPlain l.inFlow c p.second? then l.plain?
  else none

/-- Takes the rest of the text apart. -/
def run? : Nat → Lexer → Option (List Token)
  | 0, _ => none
  | fuel + 1, l => do
    let l ← (skipToToken (l.place.rest.length + 1) l).dropStale?
    let l := l.closeBlocks l.place.column
    match l.place.front? with
    | none => return (← l.finish?).tokens.toList
    | some c => run? fuel (← l.token? c)

end Lexer

/-- The tokens of a text, which may start with a byte order mark. Every token
takes a character off the text, so its length bounds their number. -/
def tokens? (text : String) : Option (List Token) :=
  let chars := match text.toList with
    | '\ufeff' :: rest => rest
    | chars => chars
  if chars.all isPrintable then Lexer.run? (chars.length + 1) { place := .ofText chars } else none

end Specimen.Yaml

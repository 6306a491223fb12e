/-!
# Places in a text

The structure of a text is given by where its parts stand, so a reader carries a
`Place`: what is left of the text with the line and the column at which it
starts. Lines end at any of five breaks. All of them read as a line feed except
the two Unicode separators, which stay themselves.
-/

namespace Specimen.Yaml

/-! ## Classes of characters -/

def isBreak (c : Char) : Bool :=
  c = '\n' || c = '\r' || c = '\u0085' || c = '\u2028' || c = '\u2029'

def isBlank (c : Char) : Bool := c = ' ' || c = '\t'

/-- Whether nothing, a blank or a break stands here. -/
def endsWord : Option Char → Bool
  | none => true
  | some c => isBlank c || isBreak c

/-- The characters of names of anchors, handles and directives. -/
def isNameChar (c : Char) : Bool :=
  c.isAlphanum || c = '_' || c = '-'

/-- Whether a character may stand in a text at all: controls may not, apart from
tabs and breaks. -/
def isPrintable (c : Char) : Bool :=
  c = '\t' || c = '\n' || c = '\r' || (' ' ≤ c && c ≤ '~') || c = '\u0085' ||
    ('\u00a0' ≤ c && c ≤ '\ufffd') || decide (0x10000 ≤ c.toNat)

/-! ## Places -/

/-- What is left of a text, and where in the text it starts. -/
structure Place where
  rest : List Char
  index : Nat
  line : Nat
  column : Nat

namespace Place

def ofText (text : List Char) : Place := ⟨text, 0, 0, 0⟩

def front? (p : Place) : Option Char := p.rest.head?

/-- The character after the one in front. -/
def second? (p : Place) : Option Char := p.rest.tail.head?

/-- The place `count` characters further on the same line. -/
def skip (count : Nat) (p : Place) : Place :=
  { p with rest := p.rest.drop count, index := p.index + count, column := p.column + count }

/-- The place after the characters in front that satisfy `accepts`, none of which
is a break, and these characters. -/
def span (accepts : Char → Bool) (p : Place) : List Char × Place :=
  let taken := p.rest.takeWhile accepts
  (taken, p.skip taken.length)

def skipWhile (accepts : Char → Bool) (p : Place) : Place := (p.span accepts).2

/-- The place at the end of the line. -/
def skipLine (p : Place) : Place := p.skipWhile fun c => !isBreak c

/-- The break in front, as the character that it reads as, and the place after
it. A carriage return and a line feed are one break. -/
def breakLine? (p : Place) : Option (Char × Place) :=
  match p.rest with
  | '\r' :: '\n' :: rest => some ('\n', ⟨rest, p.index + 2, p.line + 1, 0⟩)
  | c :: rest =>
    if isBreak c then
      some (if c = '\u2028' ∨ c = '\u2029' then c else '\n', ⟨rest, p.index + 1, p.line + 1, 0⟩)
    else none
  | [] => none

/-- Whether a mark of three equal characters stands at the start of the line. -/
def atMark (mark : Char) (p : Place) : Bool :=
  p.column = 0 &&
    match p.rest with
    | a :: b :: c :: rest => a = mark && b = mark && c = mark && endsWord rest.head?
    | _ => false

/-- Whether a document starts or ends here. -/
def atDocumentMark (p : Place) : Bool := p.atMark '-' || p.atMark '.'

end Place

end Specimen.Yaml

import Specimen.Pattern.Expr
import Specimen.Pattern.Parser
import Specimen.Pattern.Unicode.CaseFolding

/-!
# The meaning of a pattern

From a written pattern to its expression. Directives hold from where they stand
to the end of the enclosing group, also across alternatives. Differences of case
are taken into a set before it is negated. Where a pattern is not read as Unicode
text, whatever reaches beyond ASCII is refused, because it could match a part of
a character.
-/

namespace Specimen.Pattern

/-- The ways of reading that hold at a place. -/
structure Modes where
  caseInsensitive : Bool
  multiLine : Bool
  dotMatchesNewLine : Bool
  swapGreed : Bool
  unicode : Bool
  crlf : Bool

namespace Modes

/-- How a pattern is read from its start. -/
def initial : Modes := ⟨false, false, false, false, true, false⟩

/-- The modes after one flag. -/
def set (m : Modes) (flag : Flag) (on : Bool) : Modes :=
  match flag with
  | .caseInsensitive => { m with caseInsensitive := on }
  | .multiLine => { m with multiLine := on }
  | .dotMatchesNewLine => { m with dotMatchesNewLine := on }
  | .swapGreed => { m with swapGreed := on }
  | .unicode => { m with unicode := on }
  | .crlf => { m with crlf := on }
  | .ignoreBlanks => m

/-- The modes after a directive. -/
def apply (m : Modes) (d : Directive) : Modes := d.foldl (fun m (flag, on) => m.set flag on) m

end Modes

/-! ## Sets -/

/-- The characters of a named set. -/
def NamedSet.ranges : NamedSet → List CharRange
  | .alnum => [.between '0' '9', .between 'A' 'Z', .between 'a' 'z']
  | .alpha => [.between 'A' 'Z', .between 'a' 'z']
  | .ascii => [.between '\x00' '\x7f']
  | .blank => [.between '\t' '\t', .between ' ' ' ']
  | .cntrl => [.between '\x00' '\x1f', .between '\x7f' '\x7f']
  | .digit => [.between '0' '9']
  | .graph => [.between '!' '~']
  | .lower => [.between 'a' 'z']
  | .print => [.between ' ' '~']
  | .punct => [.between '!' '/', .between ':' '@', .between '[' '\x60', .between '\x7b' '~']
  | .space => [.between '\t' '\r', .between ' ' ' ']
  | .upper => [.between 'A' 'Z']
  | .word => [.between '0' '9', .between 'A' 'Z', .between '_' '_', .between 'a' 'z']
  | .xdigit => [.between '0' '9', .between 'A' 'F', .between 'a' 'f']

/-- The characters of a set with a one-letter escape. -/
def LetterSet.toClass (unicode : Bool) : LetterSet → CharClass
  | .digit => if unicode then Unicode.decimalDigits else ⟨NamedSet.digit.ranges⟩
  | .space => if unicode then Unicode.whiteSpace else ⟨NamedSet.space.ranges⟩
  | .word => if unicode then Unicode.wordCharacters else ⟨NamedSet.word.ranges⟩

/-- The class that a property names. -/
def PropertyName.toClass : PropertyName → Except Fault CharClass
  | .plain name =>
    match Unicode.property? (Unicode.plainName name) with
    | some cls => .ok cls
    | none => .error .propertyNotFound
  | .valued name value =>
    let name := Unicode.plainName name
    let among (find? : String → Option CharClass) : Except Fault CharClass :=
      match find? (Unicode.plainName value) with
      | some cls => .ok cls
      | none => .error .propertyValueNotFound
    if name = "gc" ∨ name = "generalcategory" then among Unicode.category?
    else if name = "sc" ∨ name = "script" then among Unicode.script?
    else if (Unicode.binary? name).isSome then .error .propertyValueNotFound
    else .error .propertyNotFound

def SetOperator.apply : SetOperator → CharClass → CharClass → CharClass
  | .inter, a, b => a.inter b
  | .minus, a, b => a.minus b
  | .symmetricDifference, a, b => a.symmetricDifference b

/-- A class with differences of case left out where they do not count. -/
def Modes.fold (m : Modes) (cls : CharClass) : CharClass :=
  if m.caseInsensitive then
    if m.unicode then cls.foldCase else cls.foldCase.inter ⟨NamedSet.ascii.ranges⟩
  else cls

/-- A class or the rest of all characters. Outside of Unicode only ASCII is left
to be matched. -/
def Modes.negate (m : Modes) (negated : Bool) (cls : CharClass) : Except Fault CharClass :=
  let cls := if negated then cls.negate else cls
  if m.unicode || cls.isBelow 0x80 then .ok cls else .error .notText

/-- The character of a literal inside a set. -/
def Modes.setChar (m : Modes) (c : LiteralChar) : Except Fault Char :=
  if m.unicode || c.char.toNat < 0x80 then .ok c.char
  else if c.isByte then .error .notText
  else .error .notUnicode

mutual

/-- The class of characters that a set denotes. -/
def CharSet.toClass (m : Modes) : CharSet → Except Fault CharClass
  | .literal c => do
    let c ← m.setChar c
    return ⟨[.single c]⟩
  | .range lo hi => do
    let lo ← m.setChar lo
    let hi ← m.setChar hi
    return ⟨[.between lo hi]⟩
  | .named negated set => m.negate negated (m.fold ⟨set.ranges⟩)
  | .letter negated set => m.negate negated (set.toClass m.unicode)
  | .property negated name =>
    if m.unicode then do
      let cls ← name.toClass
      m.negate negated (m.fold cls)
    else .error .notUnicode
  | .bracketed negated inner => do
    let cls ← inner.toClass m
    m.negate negated (m.fold cls)
  | .union items => CharSet.unionOf m items
  | .operation op left right => do
    let a ← left.toClass m
    let b ← right.toClass m
    return op.apply (m.fold a) (m.fold b)

/-- The class of characters that several sets denote together. -/
def CharSet.unionOf (m : Modes) : List CharSet → Except Fault CharClass
  | [] => .ok .empty
  | item :: rest => do
    let a ← item.toClass m
    let b ← CharSet.unionOf m rest
    return a.union b

end

/-! ## Parts of a pattern -/

/-- The expression of a literal character. -/
def Modes.literal (m : Modes) (c : LiteralChar) : Except Fault Expr :=
  if m.unicode then .ok (.ofClass (m.fold ⟨[.single c.char]⟩))
  else if c.char.toNat < 0x80 then .ok (.ofClass (m.fold ⟨[.single c.char]⟩))
  else if c.isByte then .error .notText
  else if m.caseInsensitive then .error .notUnicode
  else .ok (.text [c.char])

/-- The expression of a dot: any character, or any that ends no line. -/
def Modes.dot (m : Modes) : Except Fault Expr :=
  if !m.unicode then .error .notText
  else if m.dotMatchesNewLine then .ok (.charClass .all)
  else if m.crlf then .ok (.charClass (.allBut ['\n', '\r']))
  else .ok (.charClass (.allBut ['\n']))

/-- The place that an assertion requires. -/
def Modes.assertion (m : Modes) : Assertion → Except Fault Expr
  | .lineStart => .ok (.look (if m.multiLine then .lineStart m.crlf else .textStart))
  | .lineEnd => .ok (.look (if m.multiLine then .lineEnd m.crlf else .textEnd))
  | .textStart => .ok (.look .textStart)
  | .textEnd => .ok (.look .textEnd)
  | .wordBoundary => .ok (.look (.wordBoundary m.unicode))
  | .notWordBoundary =>
    if m.unicode then .ok (.look (.notWordBoundary true)) else .error .notText
  | .wordStart => .ok (.look (.wordStart m.unicode))
  | .wordEnd => .ok (.look (.wordEnd m.unicode))
  | .wordStartHalf => .ok (.look (.wordStartHalf m.unicode))
  | .wordEndHalf => .ok (.look (.wordEndHalf m.unicode))

/-! ## Patterns -/

mutual

/-- The expression of a pattern read in some modes, and the modes after it. -/
def Regex.meaning (m : Modes) : Regex → Except Fault (Expr × Modes)
  | .empty => .ok (.empty, m)
  | .directive d => .ok (.empty, m.apply d)
  | .literal c => do return (← m.literal c, m)
  | .dot => do return (← m.dot, m)
  | .assertion a => do return (← m.assertion a, m)
  | .set s => do return (.ofClass (← s.toClass m), m)
  | .repetition min max greedy body => do
    let (body, m) ← body.meaning m
    return (.ofRepetition min max (greedy != m.swapGreed) body, m)
  | .group .capturing body => do
    let (body, _) ← body.meaning m
    return (.capture body, m)
  | .group (.directive d) body => do
    let (body, _) ← body.meaning (m.apply d)
    return (body, m)
  | .concat parts => do
    let (parts, m) ← Regex.meanings m parts
    return (.ofParts parts, m)
  | .alternatives branches => do
    let (branches, m) ← Regex.meanings m branches
    return (.ofBranches branches, m)

/-- The expressions of patterns read one after another. -/
def Regex.meanings (m : Modes) : List Regex → Except Fault (List Expr × Modes)
  | [] => .ok ([], m)
  | part :: rest => do
    let (e, m) ← part.meaning m
    let (es, m) ← Regex.meanings m rest
    return (e :: es, m)

end

/-- The expression that a text denotes as a pattern. -/
def Expr.ofText (text : List Char) : Except Fault Expr := do
  let regex ← Regex.parse text
  let (e, _) ← regex.meaning .initial
  return e

end Specimen.Pattern

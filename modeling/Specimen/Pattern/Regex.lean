/-!
# Written patterns

A pattern as it is written: groups, alternatives, repetitions, assertions and
sets of characters, with the directives that change how what follows is read.
What a pattern means is settled in `Specimen.Pattern.Expr`.
-/

namespace Specimen.Pattern

/-! ## Faults -/

/-- Why a pattern cannot be used. -/
inductive Fault where
  -- groups
  | groupUnclosed
  | groupUnopened
  | groupNameUnclosed
  | groupNameEmpty
  | groupNameInvalid
  | groupNameDuplicate
  | lookAround
  | backreference
  -- directives
  | flagUnrecognized
  | flagDuplicate
  | flagNegationRepeated
  | flagNegationDangling
  | flagUnclosed
  -- sets
  | setUnclosed
  | setRangeReversed
  | setRangeNotLiteral
  | setEscapeInvalid
  -- repetitions
  | repetitionMissing
  | countUnclosed
  | countEmpty
  | countTooLarge
  | countReversed
  -- escapes
  | escapeUnfinished
  | escapeUnrecognized
  | hexEmpty
  | hexInvalidDigit
  | hexNotScalar
  | boundaryUnclosed
  | boundaryUnrecognized
  | boundaryUnfinished
  | propertyInvalid
  | propertyNotFound
  | propertyValueNotFound
  | nestedTooDeep
  -- modes
  | notUnicode
  | notText
  -- drawing
  | assertionNotDrawable
  | exactCountNotDrawable
  | greatestCountNotDrawable
deriving DecidableEq

/-- How deep groups, repetitions and sets may be nested. -/
def nestLimit : Nat := 250

namespace Fault

def message : Fault → String
  | groupUnclosed => "unclosed group"
  | groupUnopened => "unopened group"
  | groupNameUnclosed => "unclosed capture group name"
  | groupNameEmpty => "empty capture group name"
  | groupNameInvalid => "invalid capture group character"
  | groupNameDuplicate => "duplicate capture group name"
  | lookAround => "look-around, including look-ahead and look-behind, is not supported"
  | backreference => "backreferences are not supported"
  | flagUnrecognized => "unrecognized flag"
  | flagDuplicate => "duplicate flag"
  | flagNegationRepeated => "flag negation operator repeated"
  | flagNegationDangling => "dangling flag negation operator"
  | flagUnclosed => "expected flag but got end of regex"
  | setUnclosed => "unclosed character class"
  | setRangeReversed => "invalid character class range, the start must be <= the end"
  | setRangeNotLiteral => "invalid range boundary, must be a literal"
  | setEscapeInvalid => "invalid escape sequence found in character class"
  | repetitionMissing => "repetition operator missing expression"
  | countUnclosed => "unclosed counted repetition"
  | countEmpty => "repetition quantifier expects a valid decimal"
  | countTooLarge => "decimal literal invalid"
  | countReversed => "invalid repetition count range, the start must be <= the end"
  | escapeUnfinished => "incomplete escape sequence, reached end of pattern prematurely"
  | escapeUnrecognized => "unrecognized escape sequence"
  | hexEmpty => "hexadecimal literal empty"
  | hexInvalidDigit => "invalid hexadecimal digit"
  | hexNotScalar => "hexadecimal literal is not a Unicode scalar value"
  | boundaryUnclosed =>
    "special word boundary assertion is either unclosed or contains an invalid character"
  | boundaryUnrecognized =>
    "unrecognized special word boundary assertion, " ++
      "valid choices are: start, end, start-half or end-half"
  | boundaryUnfinished =>
    "found either the beginning of a special word boundary or a bounded repetition on a \\b " ++
      "with an opening brace, but no closing brace"
  | propertyInvalid => "invalid Unicode character class"
  | propertyNotFound => "Unicode property not found"
  | propertyValueNotFound => "Unicode property value not found"
  | nestedTooDeep =>
    "exceed the maximum number of nested parentheses/brackets (" ++ toString nestLimit ++ ")"
  | notUnicode => "Unicode not allowed here"
  | notText => "pattern can match invalid UTF-8"
  | assertionNotDrawable => "anchors/boundaries not supported for string generation"
  | exactCountNotDrawable => "Cannot have repetition of exactly u32::MAX"
  | greatestCountNotDrawable => "Cannot have repetition max of u32::MAX"

end Fault

/-! ## Directives -/

/-- A way of reading that a directive turns on or off. -/
inductive Flag where
  | caseInsensitive
  | multiLine
  | dotMatchesNewLine
  | swapGreed
  | unicode
  | crlf
  | ignoreBlanks
deriving DecidableEq

def Flag.ofChar? : Char → Option Flag
  | 'i' => some .caseInsensitive
  | 'm' => some .multiLine
  | 's' => some .dotMatchesNewLine
  | 'U' => some .swapGreed
  | 'u' => some .unicode
  | 'R' => some .crlf
  | 'x' => some .ignoreBlanks
  | _ => none

/-- The flags of a directive, in their order, each with whether it is turned
on. -/
abbrev Directive := List (Flag × Bool)

/-- What a directive does to one flag. -/
def Directive.setting? (d : Directive) (flag : Flag) : Option Bool :=
  (d.find? (·.1 = flag)).map (·.2)

/-! ## Sets -/

/-- The sets with a one-letter escape. -/
inductive LetterSet where
  | digit
  | space
  | word
deriving DecidableEq

/-- The sets with a name in brackets and colons, all of ASCII characters. -/
inductive NamedSet where
  | alnum
  | alpha
  | ascii
  | blank
  | cntrl
  | digit
  | graph
  | lower
  | print
  | punct
  | space
  | upper
  | word
  | xdigit
deriving DecidableEq

def NamedSet.ofName? (name : List Char) : Option NamedSet :=
  match String.ofList name with
  | "alnum" => some .alnum
  | "alpha" => some .alpha
  | "ascii" => some .ascii
  | "blank" => some .blank
  | "cntrl" => some .cntrl
  | "digit" => some .digit
  | "graph" => some .graph
  | "lower" => some .lower
  | "print" => some .print
  | "punct" => some .punct
  | "space" => some .space
  | "upper" => some .upper
  | "word" => some .word
  | "xdigit" => some .xdigit
  | _ => none

/-- A property that a set is named by. -/
inductive PropertyName where
  | plain (name : List Char)
  | valued (name value : List Char)

/-- The ways to combine two sets. -/
inductive SetOperator where
  | inter
  | minus
  | symmetricDifference
deriving DecidableEq

/-- A literal character, and whether it was written as a byte. -/
structure LiteralChar where
  char : Char
  isByte : Bool

/-- A set of characters as written. -/
inductive CharSet where
  | literal (c : LiteralChar)
  | range (lo hi : LiteralChar)
  | named (negated : Bool) (set : NamedSet)
  | letter (negated : Bool) (set : LetterSet)
  | property (negated : Bool) (name : PropertyName)
  | bracketed (negated : Bool) (inner : CharSet)
  | union (items : List CharSet)
  | operation (op : SetOperator) (left right : CharSet)

/-! ## Patterns -/

/-- A place that a match may be required to be at. -/
inductive Assertion where
  | lineStart
  | lineEnd
  | textStart
  | textEnd
  | wordBoundary
  | notWordBoundary
  | wordStart
  | wordEnd
  | wordStartHalf
  | wordEndHalf
deriving DecidableEq

/-- How a group is opened. -/
inductive GroupKind where
  | capturing
  | directive (d : Directive)

/-- A pattern as written. -/
inductive Regex where
  | empty
  | directive (d : Directive)
  | literal (c : LiteralChar)
  | dot
  | assertion (a : Assertion)
  | set (s : CharSet)
  | repetition (min : Nat) (max : Option Nat) (greedy : Bool) (body : Regex)
  | group (kind : GroupKind) (body : Regex)
  | concat (parts : List Regex)
  | alternatives (branches : List Regex)

/-- Parts one after another, without a node for a single one. -/
def Regex.ofParts : List Regex → Regex
  | [] => .empty
  | [part] => part
  | parts => .concat parts

/-- Set items together, without a node for a single one. -/
def CharSet.ofItems : List CharSet → CharSet
  | [item] => item
  | items => .union items

/-! ## Nesting -/

mutual

/-- How deep a set is nested. -/
def CharSet.depth : CharSet → Nat
  | .bracketed _ inner => inner.depth + 1
  | .union [] => 0
  | .union items => CharSet.depths items + 1
  | .operation _ left right => max left.depth right.depth + 1
  | _ => 0

def CharSet.depths : List CharSet → Nat
  | [] => 0
  | item :: rest => max item.depth (CharSet.depths rest)

end

mutual

/-- How deep a pattern is nested. -/
def Regex.depth : Regex → Nat
  | .set (.bracketed _ inner) => inner.depth + 1
  | .repetition _ _ _ body => body.depth + 1
  | .group _ body => body.depth + 1
  | .concat parts => Regex.depths parts + 1
  | .alternatives branches => Regex.depths branches + 1
  | _ => 0

def Regex.depths : List Regex → Nat
  | [] => 0
  | part :: rest => max part.depth (Regex.depths rest)

end

end Specimen.Pattern

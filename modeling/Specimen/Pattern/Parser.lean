import Specimen.Digits
import Specimen.Pattern.Regex
import Specimen.Pattern.Unicode.Property

/-!
# Reading patterns

A pattern is read from left to right, and the first fault met is the one that is
reported. While blanks are ignored (`x`), they and comments may stand between any
two parts, also inside counts, escapes and sets.

The functions for patterns and for sets carry an amount of fuel that bounds the
depth of their calls. Every call takes a character off the text, so its length
is enough (`Regex.parse`).
-/

namespace Specimen.Pattern

/-! ## Blanks -/

def isBlank (c : Char) : Bool := Unicode.whiteSpace.contains c

/-- The text without the blanks and comments in front. -/
def skipIgnored (inComment : Bool) : List Char → List Char
  | [] => []
  | c :: rest =>
    if inComment then skipIgnored (c != '\n') rest
    else if isBlank c then skipIgnored false rest
    else if c = '#' then skipIgnored true rest
    else c :: rest

/-- Passes over blanks and comments where they are ignored. -/
def skip (ignoreBlanks : Bool) (s : List Char) : List Char :=
  if ignoreBlanks then skipIgnored false s else s

/-- The characters in front that satisfy `p`, each followed by what is ignored. -/
def collect (ignoreBlanks : Bool) (p : Char → Bool) : Nat → List Char → List Char × List Char
  | fuel + 1, c :: rest =>
    if p c then
      let (cs, rest) := collect ignoreBlanks p fuel (skip ignoreBlanks rest)
      (c :: cs, rest)
    else ([], c :: rest)
  | _, s => ([], s)

/-! ## Escapes -/

/-- The character that hexadecimal digits name. -/
def ofHex (digits : List Char) : Except Fault Char :=
  let n := digits.foldl (fun n c => 16 * n + (Digits.hexValue? c).getD 0) 0
  if n.isValidChar then .ok (Char.ofNat n) else .error .hexNotScalar

/-- A given number of hexadecimal digits. -/
def hexFixed (ignoreBlanks : Bool) (done : List Char) :
    Nat → List Char → Except Fault (Char × List Char)
  | 0, s => do return (← ofHex done.reverse, s)
  | _ + 1, [] => .error .escapeUnfinished
  | count + 1, c :: rest =>
    if Digits.isHex c then hexFixed ignoreBlanks (c :: done) count (skip ignoreBlanks rest)
    else .error .hexInvalidDigit

/-- Hexadecimal digits up to a closing brace. -/
def hexBraced (ignoreBlanks : Bool) (s : List Char) : Except Fault (Char × List Char) :=
  match collect ignoreBlanks Digits.isHex s.length (skip ignoreBlanks s) with
  | (_, []) => .error .escapeUnfinished
  | (digits, '\x7d' :: rest) =>
    if digits.isEmpty then .error .hexEmpty
    else do return (← ofHex digits, skip ignoreBlanks rest)
  | _ => .error .hexInvalidDigit

/-- A character given by its number: `count` digits, or any number in braces.
Two plain digits make a byte. -/
def hexEscape (ignoreBlanks : Bool) (count : Nat) (s : List Char) :
    Except Fault (LiteralChar × List Char) :=
  match skip ignoreBlanks s with
  | [] => .error .escapeUnfinished
  | '\x7b' :: rest => do
    let (c, rest) ← hexBraced ignoreBlanks rest
    return (⟨c, false⟩, rest)
  | s => do
    let (c, rest) ← hexFixed ignoreBlanks [] count s
    return (⟨c, count = 2⟩, rest)

/-- The two sides of the first occurrence of a separator. -/
def cutAt (separator : List Char) : List Char → Option (List Char × List Char)
  | [] => none
  | c :: rest =>
    if separator.isPrefixOf (c :: rest) then some ([], (c :: rest).drop separator.length)
    else (cutAt separator rest).map fun (before, after) => (c :: before, after)

/-- What the text between the braces of a property says, and whether it asks for
the opposite. -/
def propertyOf (text : List Char) : Bool × PropertyName :=
  match cutAt ['!', '='] text with
  | some (name, value) => (true, .valued name value)
  | none =>
    match cutAt [':'] text with
    | some (name, value) => (false, .valued name value)
    | none =>
      match cutAt ['='] text with
      | some (name, value) => (false, .valued name value)
      | none => (false, .plain text)

/-- A property, named in braces or by one letter. -/
def propertyEscape (ignoreBlanks negated : Bool) (s : List Char) :
    Except Fault (CharSet × List Char) :=
  match skip ignoreBlanks s with
  | [] => .error .escapeUnfinished
  | '\x7b' :: rest =>
    match collect ignoreBlanks (· != '\x7d') rest.length (skip ignoreBlanks rest) with
    | (text, _ :: rest) =>
      let (opposite, name) := propertyOf text
      .ok (.property (negated != opposite) name, rest)
    | (_, []) => .error .escapeUnfinished
  | '\\' :: _ => .error .propertyInvalid
  | c :: rest => .ok (.property negated (.plain [c]), skip ignoreBlanks rest)

/-- The boundary with a name. -/
def boundaryOfName? (name : List Char) : Option Assertion :=
  match String.ofList name with
  | "start" => some .wordStart
  | "end" => some .wordEnd
  | "start-half" => some .wordStartHalf
  | "end-half" => some .wordEndHalf
  | _ => none

/-- The boundary that a name in braces narrows a word boundary to. Braces around
anything but a name are left for a count. -/
def boundaryEscape (ignoreBlanks : Bool) (s : List Char) :
    Except Fault (Assertion × List Char) :=
  match s with
  | '\x7b' :: rest =>
    let isNameChar (c : Char) : Bool := c.isAlpha || c == '-'
    match skip ignoreBlanks rest with
    | [] => .error .boundaryUnfinished
    | c :: inner =>
      if isNameChar c then
        match collect ignoreBlanks isNameChar (inner.length + 1) (c :: inner) with
        | (name, '\x7d' :: rest) =>
          match boundaryOfName? name with
          | some a => .ok (a, rest)
          | none => .error .boundaryUnrecognized
        | _ => .error .boundaryUnclosed
      else .ok (.wordBoundary, s)
  | s => .ok (.wordBoundary, s)

/-- Whether a backslash before the character changes nothing but that it stands
for itself: true of all of ASCII but letters, digits and angle brackets. -/
def isEscapable (c : Char) : Bool :=
  c.toNat < 0x80 && !c.isAlphanum && c != '<' && c != '>'

/-- What follows a backslash. -/
def escape (ignoreBlanks : Bool) : List Char → Except Fault (Regex × List Char)
  | [] => .error .escapeUnfinished
  | c :: rest =>
    let literal (c : Char) : Except Fault (Regex × List Char) := .ok (.literal ⟨c, false⟩, rest)
    let hex (count : Nat) : Except Fault (Regex × List Char) := do
      let (c, rest) ← hexEscape ignoreBlanks count rest
      return (.literal c, rest)
    let property (negated : Bool) : Except Fault (Regex × List Char) := do
      let (s, rest) ← propertyEscape ignoreBlanks negated rest
      return (.set s, rest)
    if c.isDigit then .error .backreference
    else if isEscapable c then literal c
    else match c with
      | 'x' => hex 2
      | 'u' => hex 4
      | 'U' => hex 8
      | 'p' => property false
      | 'P' => property true
      | 'd' => .ok (.set (.letter false .digit), rest)
      | 'D' => .ok (.set (.letter true .digit), rest)
      | 's' => .ok (.set (.letter false .space), rest)
      | 'S' => .ok (.set (.letter true .space), rest)
      | 'w' => .ok (.set (.letter false .word), rest)
      | 'W' => .ok (.set (.letter true .word), rest)
      | 'a' => literal '\x07'
      | 'f' => literal '\x0c'
      | 't' => literal '\t'
      | 'n' => literal '\n'
      | 'r' => literal '\r'
      | 'v' => literal '\x0b'
      | 'A' => .ok (.assertion .textStart, rest)
      | 'z' => .ok (.assertion .textEnd, rest)
      | 'b' => do
        let (a, rest) ← boundaryEscape ignoreBlanks rest
        return (.assertion a, rest)
      | 'B' => .ok (.assertion .notWordBoundary, rest)
      | '<' => .ok (.assertion .wordStart, rest)
      | '>' => .ok (.assertion .wordEnd, rest)
      | _ => .error .escapeUnrecognized

/-! ## Counts -/

/-- The greatest count. -/
def countMax : Nat := 0xFFFF_FFFF

/-- A decimal count, blanks around it left out. The fault of one that cannot be
used is kept, because a missing brace counts before it. -/
def decimal (ignoreBlanks : Bool) (s : List Char) : Except Fault Nat × List Char :=
  let (digits, rest) := collect ignoreBlanks Char.isDigit s.length (s.dropWhile isBlank)
  let rest := (collect ignoreBlanks isBlank rest.length rest).2
  let n := Digits.decimal digits
  let count : Except Fault Nat :=
    if digits.isEmpty then .error .countEmpty
    else if countMax < n then .error .countTooLarge
    else .ok n
  (count, rest)

/-- The bounds after an opening brace, up to the closing one. -/
def countBounds (ignoreBlanks : Bool) (s : List Char) :
    Except Fault ((Nat × Option Nat) × List Char) :=
  match skip ignoreBlanks s with
  | [] => .error .countUnclosed
  | s =>
    match decimal ignoreBlanks s with
    | (_, []) => .error .countUnclosed
    | (least, ',' :: rest) =>
      match skip ignoreBlanks rest with
      | [] => .error .countUnclosed
      | '\x7d' :: rest => do return ((← least, none), '\x7d' :: rest)
      | rest => do
        let least ← least
        let (greatest, rest) := decimal ignoreBlanks rest
        return ((least, some (← greatest)), rest)
    | (count, rest) => do
      let count ← count
      return ((count, some count), rest)

/-- A counted repetition after its opening brace: least and greatest count, and
whether as many as possible are preferred. -/
def counted (ignoreBlanks : Bool) (s : List Char) :
    Except Fault (Nat × Option Nat × Bool × List Char) := do
  let ((least, greatest), rest) ← countBounds ignoreBlanks s
  match rest with
  | '\x7d' :: rest =>
    let (greedy, rest) := match skip ignoreBlanks rest with
      | '?' :: rest => (false, rest)
      | rest => (true, rest)
    if (greatest.map fun n => decide (n < least)).getD false then .error .countReversed
    else return (least, greatest, greedy, rest)
  | _ => .error .countUnclosed

/-! ## Sets -/

/-- The set that an escape or a character stands for inside a set. -/
def setItem (ignoreBlanks : Bool) : List Char → Except Fault (Regex × List Char)
  | [] => .error .setUnclosed
  | '\\' :: rest => escape ignoreBlanks rest
  | c :: rest => .ok (.literal ⟨c, false⟩, rest)

def asSetItem : Regex → Except Fault CharSet
  | .literal c => .ok (.literal c)
  | .set s => .ok s
  | _ => .error .setEscapeInvalid

def asRangeEnd : Regex → Except Fault LiteralChar
  | .literal c => .ok c
  | _ => .error .setRangeNotLiteral

/-- The character after the next one, where blanks are ignored: blanks are passed
over, and so is one sign that opens a comment. -/
def peekPast (ignoreBlanks : Bool) (s : List Char) : Option Char :=
  if ignoreBlanks then
    match s.dropWhile isBlank with
    | '#' :: rest => (rest.dropWhile isBlank).head? <|> s.head?
    | c :: _ => some c
    | [] => s.head?
  else s.head?

/-- One item of a set, or the range that it begins. -/
def setRange (ignoreBlanks : Bool) (s : List Char) : Except Fault (CharSet × List Char) := do
  let (first, rest) ← setItem ignoreBlanks s
  match skip ignoreBlanks rest with
  | [] => .error .setUnclosed
  | '-' :: after =>
    let next := peekPast ignoreBlanks after
    if next = some ']' ∨ next = some '-' then return (← asSetItem first, '-' :: after)
    else
      match skip ignoreBlanks after with
      | [] => .error .setUnclosed
      | after =>
        let (last, rest) ← setItem ignoreBlanks after
        let lo ← asRangeEnd first
        let hi ← asRangeEnd last
        if hi.char < lo.char then .error .setRangeReversed
        else return (.range lo hi, rest)
  | rest => return (← asSetItem first, rest)

/-- A named set, after its opening bracket and if it is one. -/
def namedSet? : List Char → Option (CharSet × List Char)
  | ':' :: rest =>
    let (negated, rest) := match rest with
      | '^' :: rest => (true, rest)
      | rest => (false, rest)
    match rest.span (· != ':') with
    | (name, ':' :: ']' :: rest) =>
      (NamedSet.ofName? name).map fun set => (.named negated set, rest)
    | _ => none
  | _ => none

/-- The hyphens in front of a set's items, which stand for themselves. -/
def leadingHyphens (ignoreBlanks : Bool) (s : List Char) : List CharSet × List Char :=
  let (hyphens, rest) := collect ignoreBlanks (· == '-') s.length s
  (hyphens.map fun c => .literal ⟨c, false⟩, rest)

/-- What may stand right after the opening bracket of a set: a sign that negates
it, and hyphens or a closing bracket that stand for themselves. -/
def setOpening (ignoreBlanks : Bool) (s : List Char) :
    Except Fault (Bool × List CharSet × List Char) :=
  let s := skip ignoreBlanks s
  let (negated, s) := match s with
    | '^' :: rest => (true, skip ignoreBlanks rest)
    | s => (false, s)
  match leadingHyphens ignoreBlanks s with
  | (_, []) => .error .setUnclosed
  | ([], ']' :: rest) =>
    match skip ignoreBlanks rest with
    | [] => .error .setUnclosed
    | rest => .ok (negated, [.literal ⟨']', false⟩], rest)
  | (hyphens, rest) => .ok (negated, hyphens, rest)

/-- The set so far: the items since the last operator, in reverse, joined to what
stands before the operator. -/
def closeOperand (pending : Option (SetOperator × CharSet)) (items : List CharSet) : CharSet :=
  let operand := CharSet.ofItems items.reverse
  match pending with
  | none => operand
  | some (op, left) => .operation op left operand

/-- The operator between sets at the front of a text. -/
def setOperator? : List Char → Option (SetOperator × List Char)
  | '&' :: '&' :: rest => some (.inter, rest)
  | '-' :: '-' :: rest => some (.minus, rest)
  | '~' :: '~' :: rest => some (.symmetricDifference, rest)
  | _ => none

/-- The items of a set up to its closing bracket. -/
def setBody (ignoreBlanks : Bool) (negated : Bool) (pending : Option (SetOperator × CharSet))
    (items : List CharSet) : Nat → List Char → Except Fault (CharSet × List Char)
  | 0, _ => .error .setUnclosed
  | fuel + 1, s =>
    match skip ignoreBlanks s with
    | [] => .error .setUnclosed
    | ']' :: rest => .ok (.bracketed negated (closeOperand pending items), rest)
    | '[' :: rest =>
      match namedSet? rest with
      | some (item, rest) => setBody ignoreBlanks negated pending (item :: items) fuel rest
      | none => do
        let (innerNegated, opening, rest) ← setOpening ignoreBlanks rest
        let (item, rest) ← setBody ignoreBlanks innerNegated none opening.reverse fuel rest
        setBody ignoreBlanks negated pending (item :: items) fuel rest
    | s =>
      match setOperator? s with
      | some (op, rest) =>
        setBody ignoreBlanks negated (some (op, closeOperand pending items)) [] fuel rest
      | none => do
        let (item, rest) ← setRange ignoreBlanks s
        setBody ignoreBlanks negated pending (item :: items) fuel rest

/-- A set after its opening bracket. -/
def set (ignoreBlanks : Bool) (s : List Char) : Except Fault (CharSet × List Char) := do
  let (negated, opening, rest) ← setOpening ignoreBlanks s
  setBody ignoreBlanks negated none opening.reverse s.length rest

/-! ## Groups -/

/-- The flags of a directive up to a colon or a closing parenthesis, which stays.
They are gathered in reverse. -/
def directive (done : Directive) (negated dangling : Bool) :
    List Char → Except Fault (Directive × List Char)
  | [] => .error .flagUnclosed
  | c :: rest =>
    if c = ':' ∨ c = ')' then
      if dangling then .error .flagNegationDangling else .ok (done.reverse, c :: rest)
    else if c = '-' then
      if negated then .error .flagNegationRepeated else directive done true true rest
    else
      match Flag.ofChar? c with
      | none => .error .flagUnrecognized
      | some flag =>
        if done.any (·.1 = flag) then .error .flagDuplicate
        else directive ((flag, !negated) :: done) negated false rest

/-- Whether a character may stand in the name of a group. -/
def isNameChar (first : Bool) (c : Char) : Bool :=
  c == '_' || Unicode.alphabetic.contains c ||
    (!first && (c == '.' || c == '[' || c == ']' || Unicode.numeric.contains c))

/-- The name of a group up to its closing bracket. -/
def groupName (done : List Char) : List Char → Except Fault (List Char × List Char)
  | [] => .error .groupNameUnclosed
  | c :: rest =>
    if c = '>' then
      if done.isEmpty then .error .groupNameEmpty else .ok (done.reverse, rest)
    else if isNameChar done.isEmpty c then groupName (c :: done) rest
    else .error .groupNameInvalid

/-- What an opening parenthesis opens. -/
inductive Opening where
  /-- A directive for the rest of the enclosing group. -/
  | directive (d : Directive)
  | group (kind : GroupKind) (name : Option (List Char))

/-- What follows an opening parenthesis. -/
def opening (ignoreBlanks : Bool) (s : List Char) : Except Fault (Opening × List Char) :=
  let named (rest : List Char) : Except Fault (Opening × List Char) := do
    let (name, rest) ← groupName [] rest
    return (.group .capturing (some name), rest)
  match skip ignoreBlanks s with
  | '?' :: '=' :: _ | '?' :: '!' :: _ | '?' :: '<' :: '=' :: _ | '?' :: '<' :: '!' :: _ =>
    .error .lookAround
  | '?' :: 'P' :: '<' :: rest => named rest
  | '?' :: '<' :: rest => named rest
  | ['?'] => .error .groupUnclosed
  | '?' :: rest => do
    match ← directive [] false false rest with
    | ([], ')' :: _) => .error .repetitionMissing
    | (d, ')' :: rest) => return (.directive d, rest)
    | (d, rest) => return (.group (.directive d) none, rest.drop 1)
  | rest => .ok (.group .capturing none, rest)

/-! ## Patterns -/

/-- The repetition of the last of the parts, which stand in reverse. -/
def repeatLast (least : Nat) (greatest : Option Nat) (greedy : Bool) :
    List Regex → Except Fault (List Regex)
  | [] => .error .repetitionMissing
  | .empty :: _ => .error .repetitionMissing
  | .directive _ :: _ => .error .repetitionMissing
  | part :: rest => .ok (.repetition least greatest greedy part :: rest)

/-- Whether a sign after a repetition makes it prefer as few as possible. -/
def greediness : List Char → Bool × List Char
  | '?' :: rest => (false, rest)
  | rest => (true, rest)

/-- The alternatives up to the end of a group or of the text. -/
def closeBranches (branches parts : List Regex) : Regex :=
  match branches with
  | [] => .ofParts parts.reverse
  | branches => .alternatives ((Regex.ofParts parts.reverse :: branches).reverse)

/-- Where the reader stands: the names of the groups so far and the text left. -/
structure Cursor where
  names : List (List Char)
  rest : List Char

/-- Reads alternatives up to the end of the group or of the text. Finished
branches and the parts of the last one are gathered in reverse. -/
def alternatives (inGroup ignoreBlanks : Bool) (branches parts : List Regex) :
    Nat → Cursor → Except Fault (Regex × Cursor)
  | 0, _ => .error .groupUnclosed
  | fuel + 1, cursor =>
    let names := cursor.names
    let next (ignoreBlanks : Bool) (parts : List Regex) (rest : List Char) :=
      alternatives inGroup ignoreBlanks branches parts fuel ⟨names, rest⟩
    let repeated (least : Nat) (greatest : Option Nat) (rest : List Char) := do
      let (greedy, rest) := greediness rest
      next ignoreBlanks (← repeatLast least greatest greedy parts) rest
    match skip ignoreBlanks cursor.rest with
    | [] =>
      if inGroup then .error .groupUnclosed else .ok (closeBranches branches parts, ⟨names, []⟩)
    | '(' :: rest => do
      match ← opening ignoreBlanks rest with
      | (.directive d, rest) =>
        next ((d.setting? .ignoreBlanks).getD ignoreBlanks) (.directive d :: parts) rest
      | (.group kind name, rest) =>
        let names ← match name with
          | none => pure names
          | some name => if name ∈ names then .error .groupNameDuplicate else pure (name :: names)
        let inner := match kind with
          | .capturing => ignoreBlanks
          | .directive d => (d.setting? .ignoreBlanks).getD ignoreBlanks
        let (body, cursor) ← alternatives true inner [] [] fuel ⟨names, rest⟩
        alternatives inGroup ignoreBlanks branches (.group kind body :: parts) fuel cursor
    | ')' :: rest =>
      if inGroup then .ok (closeBranches branches parts, ⟨names, rest⟩) else .error .groupUnopened
    | '|' :: rest =>
      alternatives inGroup ignoreBlanks (.ofParts parts.reverse :: branches) [] fuel ⟨names, rest⟩
    | '[' :: rest => do
      let (s, rest) ← set ignoreBlanks rest
      next ignoreBlanks (.set s :: parts) rest
    | '?' :: rest => repeated 0 (some 1) rest
    | '*' :: rest => repeated 0 none rest
    | '+' :: rest => repeated 1 none rest
    | '\x7b' :: rest => do
      let _ ← repeatLast 0 none true parts
      let (least, greatest, greedy, rest) ← counted ignoreBlanks rest
      next ignoreBlanks (← repeatLast least greatest greedy parts) rest
    | '\\' :: rest => do
      let (part, rest) ← escape ignoreBlanks rest
      next ignoreBlanks (part :: parts) rest
    | '.' :: rest => next ignoreBlanks (.dot :: parts) rest
    | '^' :: rest => next ignoreBlanks (.assertion .lineStart :: parts) rest
    | '$' :: rest => next ignoreBlanks (.assertion .lineEnd :: parts) rest
    | c :: rest => next ignoreBlanks (.literal ⟨c, false⟩ :: parts) rest

/-- The pattern that a text denotes. -/
def Regex.parse (text : List Char) : Except Fault Regex := do
  let (regex, _) ← Pattern.alternatives false false [] [] (text.length + 1) ⟨[], text⟩
  if nestLimit < regex.depth then .error .nestedTooDeep else return regex

end Specimen.Pattern

import Specimen.Decimal.Reading
import Specimen.Digits
import Specimen.Json.Basic
import Specimen.Yaml.Node

/-!
# What scalars mean

A scalar without a tag is a string unless it is plain and its text is a word for
nothing, a truth value or a number. The tags of these types make any scalar one
of them or refuse it, and the other tags make it a string.

Integers are whole numbers of up to 64 bits. A whole number of more than 64 bits
is refused if it has up to 128 and is a floating-point number beyond these.
-/

namespace Specimen.Yaml.Scalar

/-! ## Words -/

def isNull (text : String) : Bool :=
  text = "null" || text = "Null" || text = "NULL" || text = "~"

def bool? (text : String) : Option Bool :=
  if text = "true" ∨ text = "True" ∨ text = "TRUE" then some true
  else if text = "false" ∨ text = "False" ∨ text = "FALSE" then some false
  else none

/-! ## Whole numbers -/

/-- The digits of a whole number and their base. -/
def base (digits : List Char) : Nat × List Char :=
  match digits with
  | '0' :: 'x' :: rest => (16, rest)
  | '0' :: 'o' :: rest => (8, rest)
  | '0' :: 'b' :: rest => (2, rest)
  | digits => (10, digits)

/-- The value of a digit in a base. -/
def digit? (base : Nat) (c : Char) : Option Nat :=
  (Digits.hexValue? c).filter (· < base)

/-- The natural number that digits denote in a base. -/
def natural? (base : Nat) (digits : List Char) : Option Nat :=
  if digits.isEmpty then none
  else do return (← digits.mapM (digit? base)).foldl (base * · + ·) 0

/-- Whether a text is more than one decimal digit, the first of which is a zero.
Such a text is no number. -/
def isPadded (digits : List Char) : Bool :=
  match digits with
  | '0' :: c :: rest => (c :: rest).all Char.isDigit
  | _ => false

/-- The sign of a number and what follows it. -/
def sign (text : List Char) : Option Bool × List Char :=
  match text with
  | '+' :: rest => (some false, rest)
  | '-' :: rest => (some true, rest)
  | rest => (none, rest)

/-- The whole number that a text denotes, of any size. -/
def whole? (text : String) : Option Int :=
  let (negative, digits) := sign text.toList
  if isPadded digits then none
  else
    let (base, digits) := base digits
    (natural? base digits).map fun n => if negative = some true then -n else n

/-- The integer that a text denotes, or an error for one with too many bits. -/
def integer? (text : String) : Option (Option Int) :=
  match whole? text with
  | none => none
  | some n =>
    if int64Min ≤ n ∧ n ≤ uint64Max then some (some n)
    else if -0x8000_0000_0000_0000_0000_0000_0000_0000 ≤ n ∧
        n < 0x1_0000_0000_0000_0000_0000_0000_0000_0000 then some none
    else none

/-! ## Numbers with a fraction -/

/-- The digits in front and what follows them. -/
def digits (text : List Char) : List Char × List Char :=
  text.span Char.isDigit

/-- The exponent that a text denotes; there may be none. -/
def exponent? (text : List Char) : Option Int :=
  match text with
  | [] => some 0
  | c :: rest =>
    if c = 'e' ∨ c = 'E' then
      let (negative, rest) := sign rest
      match digits rest with
      | ([], _) => none
      | (ds, []) =>
        let size : Int := Digits.decimal ds
        some (if negative = some true then -size else size)
      | _ => none
    else none

/-- The number that a decimal literal denotes. Digits may be missing on one side
of the point. -/
def decimal? (negative : Bool) (text : List Char) : Option Double :=
  let (whole, rest) := digits text
  let (fraction, rest) := match rest with
    | '.' :: rest => digits rest
    | rest => ([], rest)
  if whole.isEmpty && fraction.isEmpty then none
  else
    (exponent? rest).map fun exponent =>
      Decimal.nearest negative (Digits.decimal (whole ++ fraction)) (exponent - fraction.length)

/-- The floating-point number that a text denotes. A literal that is too large
denotes none. -/
def float? (text : String) : Option Double :=
  let (negative, size) := sign text.toList
  let name := String.ofList size
  if name = ".inf" ∨ name = ".Inf" ∨ name = ".INF" then
    some (Double.infinity (negative = some true))
  else if text = ".nan" ∨ text = ".NaN" ∨ text = ".NAN" then some .nan
  else (decimal? (negative = some true) size).filter Double.isFinite

/-! ## Documents -/

/-- A floating-point number as a document, which is null if it is not finite. -/
def ofFloat (x : Double) : Json := if x.isFinite then .number (.float x) else .null

/-- The document that the text of a plain scalar denotes. -/
def plain? (text : String) : Option Json :=
  if text.isEmpty || isNull text then some .null
  else
    match bool? text with
    | some b => some (.bool b)
    | none =>
      match integer? text with
      | some n => n.map fun n => .number (.int n)
      | none =>
        if isPadded (sign text.toList).2 then some (.string text)
        else
          match float? text with
          | some x => some (ofFloat x)
          | none => some (.string text)

/-- The tag of a type of documents. -/
def typeTag (name : String) : String := "tag:yaml.org,2002:" ++ name

/-- Whether a tag is one of those that texts define for themselves. -/
def isLocal (tag : String) : Bool := tag.toList.head? = some '!'

/-- The document that a scalar denotes. -/
def toJson? (text : String) (style : Style) (tag : Option String) : Option Json :=
  match tag with
  | none => if style = .plain then plain? text else some (.string text)
  | some tag =>
    if isLocal tag then none
    else if tag = typeTag "bool" then (bool? text).map .bool
    else if tag = typeTag "int" then
      (integer? text).bind fun n => n.map fun n => .number (.int n)
    else if tag = typeTag "float" then (float? text).map ofFloat
    else if tag = typeTag "null" then if isNull text then some .null else none
    else some (.string text)

end Specimen.Yaml.Scalar

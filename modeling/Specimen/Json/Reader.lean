import Specimen.Decimal.Reading
import Specimen.Digits
import Specimen.Json.Basic

/-!
# Read documents

The reader takes a text apart into the document it denotes and the text that is
left. A text is refused when it is not JSON, when a number is too large for a
floating-point number, when an escape names half of a surrogate pair, and when
containers are nested more than `depthLimit` deep.

The functions for values, items and fields call each other and carry an amount
of fuel that bounds the depth of the calls. Every second call takes a character
off the text, so twice its length is always enough (`read?`).
-/

namespace Specimen.Json

/-- How many containers may be open at once. -/
def depthLimit : Nat := 127

/-- The characters that may stand between the parts of a document. -/
def isBlank (c : Char) : Bool := c = ' ' || c = '\n' || c = '\t' || c = '\r'

def skipBlanks (s : List Char) : List Char := s.dropWhile isBlank

/-! ## Strings -/

/-- The four hexadecimal digits of an escaped code unit. -/
def readUnit? : List Char → Option (Nat × List Char)
  | a :: b :: c :: d :: rest => do
    let a ← Digits.hexValue? a
    let b ← Digits.hexValue? b
    let c ← Digits.hexValue? c
    let d ← Digits.hexValue? d
    return (((a * 16 + b) * 16 + c) * 16 + d, rest)
  | _ => none

/-- The character that follows a backslash and a `u`: one code unit, or the two
of a surrogate pair. -/
def readEscapedUnit? (s : List Char) : Option (Char × List Char) := do
  let (unit, rest) ← readUnit? s
  if 0xDC00 ≤ unit ∧ unit ≤ 0xDFFF then none
  else if 0xD800 ≤ unit ∧ unit ≤ 0xDBFF then
    match rest with
    | '\\' :: 'u' :: rest =>
      let (low, rest) ← readUnit? rest
      if 0xDC00 ≤ low ∧ low ≤ 0xDFFF then
        some (Char.ofNat (0x10000 + (unit - 0xD800) * 0x400 + (low - 0xDC00)), rest)
      else none
    | _ => none
  else some (Char.ofNat unit, rest)

/-- The character that follows a backslash. -/
def readEscape? : List Char → Option (Char × List Char)
  | '"' :: rest => some ('"', rest)
  | '\\' :: rest => some ('\\', rest)
  | '/' :: rest => some ('/', rest)
  | 'b' :: rest => some ('\x08', rest)
  | 'f' :: rest => some ('\x0c', rest)
  | 'n' :: rest => some ('\n', rest)
  | 'r' :: rest => some ('\r', rest)
  | 't' :: rest => some ('\t', rest)
  | 'u' :: rest => readEscapedUnit? rest
  | _ => none

/-- The characters of a string up to its closing quote, in reverse before
`done`. -/
def readString? (fuel : Nat) (done : List Char) (s : List Char) : Option (String × List Char) :=
  match fuel, s with
  | _, [] => none
  | 0, _ => none
  | fuel + 1, c :: rest =>
    if c = '"' then some (.ofList done.reverse, rest)
    else if c = '\\' then
      match readEscape? rest with
      | some (c, rest) => readString? fuel (c :: done) rest
      | none => none
    else if c.toNat < 0x20 then none
    else readString? fuel (c :: done) rest

/-! ## Numbers -/

/-- The digits at the front of a text and what follows them. -/
def readDigits (s : List Char) : List Char × List Char := s.span Char.isDigit

/-- The digits before the point: a zero stands alone. -/
def readWhole? (s : List Char) : Option (List Char × List Char) :=
  match readDigits s with
  | ([], _) => none
  | ('0' :: _ :: _, _) => none
  | read => some read

/-- The digits after the point; without a point there are none. -/
def readFraction? : List Char → Option (Option (List Char) × List Char)
  | '.' :: rest =>
    match readDigits rest with
    | ([], _) => none
    | (ds, rest) => some (some ds, rest)
  | s => some (none, s)

/-- The exponent, if there is one. -/
def readExponent? : List Char → Option (Option Int × List Char)
  | c :: rest =>
    if c = 'e' || c = 'E' then
      let (negative, rest) := match rest with
        | '-' :: rest => (true, rest)
        | '+' :: rest => (false, rest)
        | rest => (false, rest)
      match readDigits rest with
      | ([], _) => none
      | (ds, rest) =>
        let size : Int := Digits.decimal ds
        some (some (if negative then -size else size), rest)
    else some (none, c :: rest)
  | [] => some (none, [])

/-- The number that the parts of a literal denote. One without a fraction and an
exponent is an integer if it fits 64 bits, and a negative zero is never one. -/
def numberOf? (negative : Bool) (whole : List Char) (fraction : Option (List Char))
    (exponent : Option Int) : Option Number :=
  let size := Digits.decimal whole
  let float := Decimal.nearest negative (Digits.decimal (whole ++ fraction.getD []))
    (exponent.getD 0 - (fraction.getD []).length)
  let isInteger := fraction.isNone && exponent.isNone &&
    if negative then decide (0 < size) && decide (size ≤ 0x8000_0000_0000_0000)
    else decide (size ≤ uint64Max)
  if isInteger then some (.int (if negative then -size else size))
  else if float.isFinite then some (.float float)
  else none

/-- The number at the front of a text. -/
def readNumber? (s : List Char) : Option (Number × List Char) := do
  let (negative, rest) := match s with
    | '-' :: rest => (true, rest)
    | rest => (false, rest)
  let (whole, rest) ← readWhole? rest
  let (fraction, rest) ← readFraction? rest
  let (exponent, rest) ← readExponent? rest
  let n ← numberOf? negative whole fraction exponent
  return (n, rest)

/-! ## Documents -/

mutual

/-- The document at the front of a text, with at most `depth` containers open
at once. -/
def readValue? (fuel depth : Nat) (s : List Char) : Option (Json × List Char) :=
  match fuel with
  | 0 => none
  | fuel + 1 =>
    match skipBlanks s with
    | 'n' :: 'u' :: 'l' :: 'l' :: rest => some (.null, rest)
    | 't' :: 'r' :: 'u' :: 'e' :: rest => some (.bool true, rest)
    | 'f' :: 'a' :: 'l' :: 's' :: 'e' :: rest => some (.bool false, rest)
    | '"' :: rest => (readString? (rest.length + 1) [] rest).map fun (s, rest) => (.string s, rest)
    | '[' :: rest =>
      match depth with
      | 0 => none
      | depth + 1 =>
        match skipBlanks rest with
        | ']' :: rest => some (.array [], rest)
        | rest => (readItems? fuel depth [] rest).map fun (items, rest) => (.array items, rest)
    | '\x7b' :: rest =>
      match depth with
      | 0 => none
      | depth + 1 =>
        match skipBlanks rest with
        | '\x7d' :: rest => some (.object [], rest)
        | rest => (readFields? fuel depth [] rest).map fun (fields, rest) => (.object fields, rest)
    | rest => (readNumber? rest).map fun (n, rest) => (.number n, rest)

/-- The items of an array up to its end, in reverse before `done`. -/
def readItems? (fuel depth : Nat) (done : List Json) (s : List Char) :
    Option (List Json × List Char) :=
  match fuel with
  | 0 => none
  | fuel + 1 =>
    match readValue? fuel depth s with
    | none => none
    | some (item, rest) =>
      match skipBlanks rest with
      | ',' :: rest => readItems? fuel depth (item :: done) rest
      | ']' :: rest => some ((item :: done).reverse, rest)
      | _ => none

/-- The fields of an object up to its end, in reverse before `done`. -/
def readFields? (fuel depth : Nat) (done : List (String × Json)) (s : List Char) :
    Option (List (String × Json) × List Char) :=
  match fuel with
  | 0 => none
  | fuel + 1 =>
    match skipBlanks s with
    | '"' :: rest =>
      match readString? (rest.length + 1) [] rest with
      | none => none
      | some (name, rest) =>
        match skipBlanks rest with
        | ':' :: rest =>
          match readValue? fuel depth rest with
          | none => none
          | some (value, rest) =>
            match skipBlanks rest with
            | ',' :: rest => readFields? fuel depth ((name, value) :: done) rest
            | '\x7d' :: rest => some (((name, value) :: done).reverse, rest)
            | _ => none
        | _ => none
    | _ => none

end

/-- The document at the front of a text and the rest of the text. The fields of
objects stand as written, in their order and with repeated names. -/
def readFront? (s : List Char) : Option (Json × List Char) :=
  readValue? (2 * s.length + 2) depthLimit s

/-- The document that a whole text denotes, its fields as written. -/
def readWritten? (text : String) : Option Json :=
  match readFront? text.toList with
  | some (d, rest) => if (skipBlanks rest).isEmpty then some d else none
  | none => none

/-- The document that a whole text denotes. -/
def read? (text : String) : Option Json := (readWritten? text).map normalize

end Specimen.Json

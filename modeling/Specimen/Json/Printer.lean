import Specimen.Json.Basic
import Specimen.Decimal.Layout

/-!
# Printed documents

One printer serves the compact and the indented form: a `Style` says what
stands where a line may be broken and what follows a colon. Strings are printed
with only the escapes that are needed, and numbers as `Decimal.Layout.document`
sets them out, so that a floating-point number never reads back as an integer.
-/

namespace Specimen.Json

/-- How the parts of a printed document are set apart. -/
structure Style where
  /-- The text between two parts at the given depth. -/
  lineBreak : Nat → List Char
  /-- The text between a colon and a value. -/
  afterColon : List Char

/-- Everything on one line, without blanks. -/
def Style.compact : Style := ⟨fun _ => [], []⟩

/-- One part a line, indented by two blanks a level. -/
def Style.indented : Style := ⟨fun depth => '\n' :: List.replicate (2 * depth) ' ', [' ']⟩

/-! ## Strings -/

/-- The lower-case hexadecimal digit of a number below sixteen. -/
def hexDigit (n : Nat) : Char :=
  if n < 10 then Char.ofNat ('0'.toNat + n) else Char.ofNat ('a'.toNat + (n - 10))

/-- How a character stands inside a printed string. -/
def escape (c : Char) : List Char :=
  if c = '"' then ['\\', '"']
  else if c = '\\' then ['\\', '\\']
  else if c = '\n' then ['\\', 'n']
  else if c = '\r' then ['\\', 'r']
  else if c = '\t' then ['\\', 't']
  else if c = '\x08' then ['\\', 'b']
  else if c = '\x0c' then ['\\', 'f']
  else if c.toNat < 0x20 then
    ['\\', 'u', '0', '0', hexDigit (c.toNat / 16), hexDigit (c.toNat % 16)]
  else [c]

/-- A string in quotes. -/
def quote (s : String) : List Char := '"' :: (s.toList.flatMap escape ++ ['"'])

/-! ## Numbers -/

/-- The text of an integer. -/
def writeInt (n : Int) : List Char :=
  if n < 0 then '-' :: Decimal.digits n.natAbs else Decimal.digits n.natAbs

def writeNumber : Number → List Char
  | .int n => writeInt n
  | .float x => (Decimal.Layout.document.write x).toList

/-! ## Documents -/

mutual

/-- The document in the given style, its inner parts one level below `depth`. -/
def write (style : Style) (depth : Nat) : Json → List Char
  | null => ['n', 'u', 'l', 'l']
  | bool true => ['t', 'r', 'u', 'e']
  | bool false => ['f', 'a', 'l', 's', 'e']
  | number n => writeNumber n
  | string s => quote s
  | array [] => ['[', ']']
  | array (item :: rest) =>
    '[' :: writeItems style (depth + 1) (item :: rest) ++ style.lineBreak depth ++ [']']
  | object [] => ['\x7b', '\x7d']
  | object (field :: rest) =>
    '\x7b' :: writeFields style (depth + 1) (field :: rest) ++ style.lineBreak depth ++ ['\x7d']

/-- Items set apart by commas, each after a line break. -/
def writeItems (style : Style) (depth : Nat) : List Json → List Char
  | [] => []
  | [item] => style.lineBreak depth ++ write style depth item
  | item :: next :: rest =>
    style.lineBreak depth ++ write style depth item ++ ',' :: writeItems style depth (next :: rest)

/-- Fields set apart by commas, each after a line break. -/
def writeFields (style : Style) (depth : Nat) : List (String × Json) → List Char
  | [] => []
  | [(name, value)] =>
    style.lineBreak depth ++ quote name ++ ':' :: style.afterColon ++ write style depth value
  | (name, value) :: next :: rest =>
    style.lineBreak depth ++ quote name ++ ':' :: style.afterColon ++ write style depth value ++
      ',' :: writeFields style depth (next :: rest)

end

/-- The document on one line. -/
def compact (d : Json) : String := .ofList (d.write .compact 0)

/-- The document over several lines. -/
def indented (d : Json) : String := .ofList (d.write .indented 0)

/-! ## Several documents -/

/-- Documents one after another, each with a line break behind it. Between
documents over several lines there is an empty line. -/
def writeAll (isIndented : Bool) : List Json → List Char
  | [] => []
  | [d] => (d.write (if isIndented then .indented else .compact) 0) ++ ['\n']
  | d :: next :: rest =>
    (d.write (if isIndented then .indented else .compact) 0) ++
      '\n' :: (if isIndented then ['\n'] else []) ++ writeAll isIndented (next :: rest)

end Specimen.Json

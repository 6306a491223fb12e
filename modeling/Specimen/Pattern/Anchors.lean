/-!
# Anchors and ASCII shorthands

A string is drawn as a whole, so an anchor at either end of its pattern says
nothing and is taken off before the pattern is read. The digit and word
shorthands mean ASCII characters in schemas, and are written out as sets; sets
may be nested, so this holds inside sets as well.

Two scans look for backslashes. `isEscaped` counts those at the end of a text,
and `expandShorthands` pairs each with what follows it from the start. A
character is escaped for one just when it is for the other.
-/

namespace Specimen.Pattern

/-- Whether a character put after the text would be escaped: an odd number of
backslashes stand at its end. -/
def isEscaped (text : List Char) : Bool :=
  (text.reverse.takeWhile (· == '\\')).length % 2 == 1

def dropStartAnchor : List Char → List Char
  | '^' :: rest => rest
  | text => text

/-- The text without an unescaped dollar sign at its end. -/
def dropEndAnchor (text : List Char) : List Char :=
  match text.reverse with
  | '$' :: reversed => if isEscaped reversed.reverse then text else reversed.reverse
  | _ => text

/-- The text without an anchor at either end. -/
def dropAnchors (text : List Char) : List Char := dropEndAnchor (dropStartAnchor text)

/-- The set that an escaped letter stands for, if it is a shorthand. -/
def shorthand? : Char → Option (List Char)
  | 'd' => some ['[', '0', '-', '9', ']']
  | 'D' => some ['[', '^', '0', '-', '9', ']']
  | 'w' => some ['[', '0', '-', '9', 'A', '-', 'Z', 'a', '-', 'z', '_', ']']
  | 'W' => some ['[', '^', '0', '-', '9', 'A', '-', 'Z', 'a', '-', 'z', '_', ']']
  | _ => none

/-- The text with every digit and word shorthand written out. -/
def expandShorthands : List Char → List Char
  | [] => []
  | '\\' :: c :: rest =>
    match shorthand? c with
    | some set => set ++ expandShorthands rest
    | none => '\\' :: c :: expandShorthands rest
  | c :: rest => c :: expandShorthands rest

/-- The pattern that strings are drawn from. -/
def drawnText (text : List Char) : List Char := expandShorthands (dropAnchors text)

end Specimen.Pattern

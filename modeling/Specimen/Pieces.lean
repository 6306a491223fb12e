/-!
# Pieces of a text

Taking a text apart at every occurrence of one character, and putting it
together again.
-/

namespace Specimen

/-- The pieces of a text between the occurrences of a separator; there is always
at least one. -/
def pieces (separator : Char) : List Char → List (List Char)
  | [] => [[]]
  | c :: rest =>
    if c = separator then [] :: pieces separator rest
    else match pieces separator rest with
      | [] => [[c]]
      | piece :: more => (c :: piece) :: more

/-- The text with the given pieces. -/
def unpieces (separator : Char) : List (List Char) → List Char
  | [] => []
  | [piece] => piece
  | piece :: next :: rest => piece ++ separator :: unpieces separator (next :: rest)

end Specimen

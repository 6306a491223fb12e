import Specimen.Random.LoremWords
import Specimen.Random.Pick

/-!
# Lorem text

Text of a limited length is made of whole chunks joined by blanks: single words
for short limits and sentences for long ones. Only the first chunk is ever cut.
-/

namespace Specimen

/-- The first characters of a text. -/
def truncate (s : String) (count : Nat) : String := .ofList (s.toList.take count)

namespace Draw

variable {σ ε : Type} [Source σ]

/-- A lorem word. -/
def word : Draw σ ε String := do
  return (← element loremWords).getD ""

/-- Lorem words, three to nine of them, closed by a full stop. -/
def sentence : Draw σ ε String := do
  let count ← countBetween 3 9
  let words ← times count word
  return String.intercalate " " words ++ "."

/-- Texts of at least this many characters are made of sentences. -/
def sentenceThreshold : Nat := 25

/-- A chunk of a text of at most `limit` characters. -/
def chunk (limit : Nat) : Draw σ ε String := if limit < sentenceThreshold then word else sentence

/-- Appends chunks to a text as long as they fit. Every chunk is longer than
nothing, so no more rounds than the limit are needed. -/
def extendText (limit : Nat) (text : List Char) : Nat → Draw σ ε (List Char)
  | 0 => pure text
  | rounds + 1 => do
    if limit ≤ text.length then return text
    let next := (← chunk limit).toList
    let longer := text ++ ' ' :: next
    if limit < longer.length then return text
    else if next.isEmpty then return longer
    else extendText limit longer rounds

/-- Lorem text of at most `limit` characters, empty only for a limit of zero. -/
def text (limit : Nat) : Draw σ ε String := do
  if limit = 0 then return ""
  let first := (← chunk limit).toList
  let whole ← extendText limit first limit
  return .ofList (whole.take limit)

end Draw

end Specimen

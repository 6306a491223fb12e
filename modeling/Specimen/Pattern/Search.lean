import Specimen.Pattern.Meaning
import Specimen.Schema.Error

/-!
# Searching for a pattern

Whether some part of a text matches a pattern. For a list of places in the text
`Expr.ends` finds the places where a match that begins at one of them can end;
a repetition goes on until no new place is reached, which happens after as many
rounds as the text has places at the latest. So nothing is tried twice, however
the pattern is nested.
-/

namespace Specimen.Pattern

/-! ## Places -/

def isWordChar (unicode : Bool) (c : Char) : Bool :=
  if unicode then Unicode.wordCharacters.contains c
  else c.isAlphanum || c == '_'

/-- The character before a place. -/
def before? (text : Array Char) (i : Nat) : Option Char :=
  match i with
  | 0 => none
  | i + 1 => text[i]?

/-- Whether a place is as required. -/
def Look.holds (text : Array Char) (i : Nat) : Look → Bool
  | .textStart => i == 0
  | .textEnd => i == text.size
  | .lineStart crlf =>
    i == 0 || before? text i == some '\n' ||
      (crlf && before? text i == some '\r' && text[i]? != some '\n')
  | .lineEnd crlf =>
    i == text.size ||
      if crlf then
        text[i]? == some '\r' || (text[i]? == some '\n' && before? text i != some '\r')
      else text[i]? == some '\n'
  | .wordBoundary unicode => wordBefore unicode != wordAfter unicode
  | .notWordBoundary unicode => wordBefore unicode == wordAfter unicode
  | .wordStart unicode => !wordBefore unicode && wordAfter unicode
  | .wordEnd unicode => wordBefore unicode && !wordAfter unicode
  | .wordStartHalf unicode => !wordBefore unicode
  | .wordEndHalf unicode => !wordAfter unicode
where
  wordBefore (unicode : Bool) : Bool := ((before? text i).map (isWordChar unicode)).getD false
  wordAfter (unicode : Bool) : Bool := (text[i]?.map (isWordChar unicode)).getD false

/-- Whether the characters stand in the text from a place on. -/
def standsAt (text : Array Char) (i : Nat) : List Char → Bool
  | [] => true
  | c :: rest => text[i]? == some c && standsAt text (i + 1) rest

/-- Ascending places, with one more in its order. -/
def insertPlace (i : Nat) : List Nat → List Nat
  | [] => [i]
  | j :: rest =>
    if i < j then i :: j :: rest else if i = j then j :: rest else j :: insertPlace i rest

/-- Ascending places that are in one of two lists. -/
def mergePlaces (a b : List Nat) : List Nat := b.foldl (fun places i => insertPlace i places) a

/-! ## Repetition -/

/-- Takes a step a number of times, or fewer if it comes to a standstill. -/
def iterateStep (step : List Nat → List Nat) : Nat → List Nat → List Nat
  | 0, places => places
  | count + 1, places =>
    let next := step places
    if next = places then places else iterateStep step count next

/-- The places reached by up to a number of steps, those reached in the last
round in `fresh`. -/
def reach (step : List Nat → List Nat) (found : List Nat) : Nat → List Nat → List Nat
  | 0, _ => found
  | count + 1, fresh =>
    match (step fresh).filter (fun i => !found.contains i) with
    | [] => found
    | new => reach step (mergePlaces found new) count new

/-! ## Expressions -/

mutual

/-- The places where a match can end that begins at one of the given places. -/
def Expr.ends (text : Array Char) (starts : List Nat) : Expr → List Nat
  | .empty => starts
  | .text chars => (starts.filter fun i => standsAt text i chars).map (· + chars.length)
  | .charClass cls =>
    (starts.filter fun i => (text[i]?.map cls.contains).getD false).map (· + 1)
  | .look l => starts.filter fun i => l.holds text i
  | .repetition min max _ body =>
    let step (places : List Nat) : List Nat := Expr.ends text places body
    let least := iterateStep step min starts
    let more := match max with
      | some max => Nat.min (max - min) (text.size + 1)
      | none => text.size + 1
    reach step least more least
  | .capture body => Expr.ends text starts body
  | .concat parts => Expr.endsAll text starts parts
  | .alternatives branches => Expr.endsAny text starts branches

/-- The places where matches of expressions one after another can end. -/
def Expr.endsAll (text : Array Char) (starts : List Nat) : List Expr → List Nat
  | [] => starts
  | e :: rest => Expr.endsAll text (Expr.ends text starts e) rest

/-- The places where a match of one of several expressions can end. -/
def Expr.endsAny (text : Array Char) (starts : List Nat) : List Expr → List Nat
  | [] => []
  | e :: rest => mergePlaces (Expr.ends text starts e) (Expr.endsAny text starts rest)

end

/-- Whether a match begins and ends somewhere in a text. -/
def Expr.isFoundIn (e : Expr) (text : List Char) : Bool :=
  !(e.ends text.toArray (List.range (text.length + 1))).isEmpty

end Specimen.Pattern

namespace Specimen

/-! ## Matchers -/

/-- A pattern that texts are searched for. -/
structure Matcher where
  expr : Pattern.Expr

namespace Matcher

/-- The matcher of a pattern, which is read as it is written. -/
def compile (source : String) : Except PatternError Matcher :=
  match Pattern.Expr.ofText source.toList with
  | .ok expr => .ok ⟨expr⟩
  | .error fault => .error ⟨source, fault.message⟩

/-- Whether a text holds a match. -/
def isMatch (m : Matcher) (text : String) : Bool := m.expr.isFoundIn text.toList

end Matcher

end Specimen

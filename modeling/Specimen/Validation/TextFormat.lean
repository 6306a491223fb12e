import Specimen.Calendar
import Specimen.Digits
import Specimen.Pattern.Anchors
import Specimen.Pattern.Search
import Specimen.Validation.Draft
import Specimen.Validation.Uri

/-!
# Formats of strings

What the keyword `format` asks of a string. Which formats there are depends on
the draft, and a format that a draft does not have asks for nothing.
-/

namespace Specimen.Validation

/-! ## Patterns -/

namespace SchemaPattern

/-- The blanks that a shorthand means in schemas. -/
def blanks : List Char :=
  [' ', '\t', '\n', '\r', '\x0b', '\x0c', '\u00a0', '\ufeff', '\u2003', '\u2029']

/-- The set that an escaped letter stands for, if it is a shorthand. -/
def shorthand? : Char → Option (List Char)
  | 's' => some ('[' :: blanks ++ [']'])
  | 'S' => some ('[' :: '^' :: blanks ++ [']'])
  | c => Pattern.shorthand? c

/-- The text of a pattern with the shorthands written out and with escaped control
letters as the characters they stand for. -/
def expand : List Char → List Char
  | [] => []
  | '\\' :: 'c' :: c :: rest =>
    if c.isAlpha then Char.ofNat (c.toNat % 32) :: expand rest
    else '\\' :: 'c' :: c :: expand rest
  | '\\' :: c :: rest =>
    match shorthand? c with
    | some set => set ++ expand rest
    | none => '\\' :: c :: expand rest
  | c :: rest => c :: expand rest

/-- What a pattern asks of a string, if it is well-formed. Where it looks around or
back, it is taken to ask for nothing. -/
def matcher? (source : String) : Option (String → Bool) :=
  match Pattern.Expr.ofText (expand source.toList) with
  | .ok expr => some fun text => expr.isFoundIn text.toList
  | .error .lookAround => some fun _ => true
  | .error .backreference => some fun _ => true
  | .error _ => none

/-- Whether a pattern is well-formed and found in a string. -/
def isFound (source text : String) : Bool :=
  match matcher? source with
  | some found => found text
  | none => false

end SchemaPattern

namespace TextFormat

/-! ## Dates and times -/

/-- The number that digits denote, if there are as many as asked for. -/
def digits? (count : Nat) (text : List Char) : Option Nat :=
  if text.length = count && text.all Char.isDigit then
    some (Digits.decimal text)
  else none

def isDate (text : List Char) : Bool :=
  match digits? 4 (text.take 4), text.drop 4 with
  | some year, ['-', a, b, '-', c, d] =>
    match digits? 2 [a, b], digits? 2 [c, d] with
    | some month, some day =>
      decide (1 ≤ month) && decide (1 ≤ day) &&
        match (Calendar.monthLengths year)[month - 1]? with
        | some length => decide (day ≤ length)
        | none => false
    | _, _ => false
  | _, _ => false

/-- Whether a time of day has an offset from universal time that fits it: a
leap second must be the last one of a universal day. -/
def isOffset (hour minute second : Nat) (text : List Char) : Bool :=
  let fits (offset : Int) : Bool :=
    second != 60 || ((hour * 60 + minute : Nat) - offset) % (24 * 60) = 23 * 60 + 59
  match text with
  | ['Z'] => fits 0
  | ['z'] => fits 0
  | [mark, a, b, ':', c, d] =>
    match digits? 2 [a, b], digits? 2 [c, d] with
    | some hours, some minutes =>
      let size : Int := (hours * 60 + minutes : Nat)
      decide (hours ≤ 23) && decide (minutes ≤ 59) &&
        ((mark = '+' && fits size) || (mark = '-' && fits (-size)))
    | _, _ => false
  | _ => false

def isTime (text : List Char) : Bool :=
  match text with
  | a :: b :: ':' :: c :: d :: ':' :: e :: f :: rest =>
    match digits? 2 [a, b], digits? 2 [c, d], digits? 2 [e, f] with
    | some hour, some minute, some second =>
      let fraction := match rest with
        | '.' :: rest =>
          let (digits, rest) := rest.span Char.isDigit
          if digits.isEmpty then none else some rest
        | rest => some rest
      decide (hour ≤ 23) && decide (minute ≤ 59) && decide (second ≤ 60) &&
        fraction.any (isOffset hour minute second)
    | _, _, _ => false
  | _ => false

def isDateTime (text : List Char) : Bool :=
  match text.span fun c => c != 'T' && c != 't' with
  | (date, _ :: time) => isDate date && isTime time
  | _ => false

/-- The counts of units in front of a duration, each unit at most once and in the
given order. -/
def dropUnits (units : List Char) (text : List Char) : List Char :=
  match units with
  | [] => text
  | mark :: units =>
    match text.span Char.isDigit with
    | (_ :: _, c :: rest) => if c = mark then dropUnits units rest else dropUnits units text
    | _ => dropUnits units text

def isDuration (text : List Char) : Bool :=
  match text with
  | 'P' :: rest =>
    if !rest.isEmpty && (dropUnits ['W'] rest).isEmpty then true
    else
      match dropUnits ['Y', 'M', 'D'] rest with
      | [] => !rest.isEmpty
      | 'T' :: time => !time.isEmpty && (dropUnits ['H', 'M', 'S'] time).isEmpty
      | _ => false
  | _ => false

/-! ## Names of machines and people -/

def isHostname (isNameChar : Char → Bool) (text : List Char) : Bool :=
  !text.isEmpty && decide (text.length ≤ 255) && text.head? != some '-' &&
    text.getLast? != some '-' && text.all (fun c => isNameChar c || c = '-' || c = '.') &&
    (pieces '.' text).all fun label => decide (label.length ≤ 63)

/-- The characters of the parts of a mailbox name. -/
def isAtomChar (c : Char) : Bool :=
  c.isAlphanum || "!#$%&\x27*+-/=?^_\x60\x7b|\x7d~".toList.contains c ||
    decide (0x80 ≤ c.toNat)

def isAtoms (text : List Char) : Bool :=
  (pieces '.' text).all fun atom => !atom.isEmpty && atom.all isAtomChar

/-- Whether a text can stand between double quotes in a mailbox name. -/
def isQuoted : List Char → Bool
  | [] => true
  | '\\' :: c :: rest => decide (0x20 ≤ c.toNat) && isQuoted rest
  | c :: rest => c != '\\' && c != '"' && decide (0x20 ≤ c.toNat) && isQuoted rest

def isLocalPart (text : List Char) : Bool :=
  !text.isEmpty && decide (text.length ≤ 64) &&
    match text with
    | '"' :: rest =>
      match rest.reverse with
      | '"' :: inner => isQuoted inner.reverse
      | _ => false
    | text => isAtoms text

/-- The address between the brackets of a literal domain. -/
def isLiteralDomain (text : List Char) : Bool :=
  match text with
  | 'I' :: 'P' :: 'v' :: '6' :: ':' :: rest => Uri.isIPv6 rest
  | text => Uri.isIPv4 text

def isDomain (text : List Char) : Bool :=
  !text.isEmpty && decide (text.length ≤ 254) &&
    match text with
    | '[' :: rest =>
      match rest.reverse with
      | ']' :: inner => isLiteralDomain inner.reverse
      | _ => false
    | text =>
      (pieces '.' text).all fun label =>
        !label.isEmpty && decide (label.length ≤ 63) && label.head? != some '-' &&
          label.getLast? != some '-' &&
          label.all fun c => c.isAlphanum || c = '-' || decide (0x80 ≤ c.toNat)

def isEmail (text : List Char) : Bool :=
  match text.reverse.span (· != '@') with
  | (domain, _ :: localPart) => isLocalPart localPart.reverse && isDomain domain.reverse
  | _ => false

/-! ## Identifiers -/

def isUuid (text : List Char) : Bool :=
  (pieces '-' text).map List.length = [8, 4, 4, 4, 12] &&
    text.all fun c => Digits.isHex c || c = '-'

/-- Whether every tilde is the start of an escape. -/
def areTildesEscapes : List Char → Bool
  | [] => true
  | '~' :: c :: rest => (c = '0' || c = '1') && areTildesEscapes rest
  | c :: rest => c != '~' && areTildesEscapes rest

def isPointer (text : List Char) : Bool :=
  (text.isEmpty || text.head? = some '/') && areTildesEscapes text

def isRelativePointer (text : List Char) : Bool :=
  match text.span Char.isDigit with
  | (digits, rest) =>
    !digits.isEmpty && (digits.length = 1 || digits.head? != some '0') &&
      (rest = ['#'] || isPointer rest)

/-- Whether a variable of a template is well-formed. -/
def isTemplateVariable (text : List Char) : Bool :=
  let (name, rest) := text.span fun c => c.isAlphanum || "_.%".toList.contains c
  !name.isEmpty &&
    match rest with
    | [] => true
    | ['*'] => true
    | ':' :: digits =>
      !digits.isEmpty && decide (digits.length ≤ 4) && digits.all Char.isDigit &&
        digits.head? != some '0'
    | _ => false

/-- Whether a text is a template of addresses. Between braces stand variables,
perhaps behind an operator. -/
def isTemplate : Nat → List Char → Bool
  | 0, _ => false
  | _, [] => true
  | fuel + 1, '\x7b' :: rest =>
    match rest.span (· != '\x7d') with
    | (inner, _ :: rest) =>
      let inner := if inner.head?.any "+#./;?&=,!@|".toList.contains then inner.tail else inner
      (pieces ',' inner).all isTemplateVariable && isTemplate fuel rest
    | _ => false
  | fuel + 1, c :: rest =>
    decide (0x20 < c.toNat) && !"\"\x27<>\\^\x60\x7d|".toList.contains c && isTemplate fuel rest

/-! ## All formats -/

/-- Whether a string has the format with a name in a draft. -/
def accepts (d : Draft) (name : String) (string : String) : Bool :=
  let text := string.toList
  match name with
  | "date" => isDate text
  | "date-time" => isDateTime text
  | "time" => isTime text
  | "email" => isEmail text
  | "idn-email" => isEmail text
  | "hostname" => isHostname (fun c => c.isAlphanum) text
  | "idn-hostname" =>
    !d.isFrom .draft7 ||
      isHostname (fun c => c.isAlphanum || decide (0x80 ≤ c.toNat)) text
  | "ipv4" => Uri.isIPv4 text
  | "ipv6" => Uri.isIPv6 text
  | "uri" => Uri.isAddress false text
  | "uri-reference" => !d.isFrom .draft6 || Uri.isReference false text
  | "iri" => !d.isFrom .draft7 || Uri.isAddress true text
  | "iri-reference" => !d.isFrom .draft7 || Uri.isReference true text
  | "uri-template" => !d.isFrom .draft6 || isTemplate (text.length + 1) text
  | "json-pointer" => !d.isFrom .draft6 || isPointer text
  | "relative-json-pointer" => !d.isFrom .draft7 || isRelativePointer text
  | "regex" => (SchemaPattern.matcher? string).isSome
  | "uuid" => !d.isFrom .draft2019 || isUuid text
  | "duration" => !d.isFrom .draft2019 || isDuration text
  | _ => true

end TextFormat

end Specimen.Validation

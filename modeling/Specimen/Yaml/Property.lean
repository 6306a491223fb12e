import Specimen.Digits
import Specimen.Yaml.Text
import Specimen.Yaml.Token

/-!
# Names

Anchors, aliases and tags, which stand before a node, and directives, which stand
before a document. A tag is a handle and a suffix; the handle is empty if the
suffix is the whole tag.
-/

namespace Specimen.Yaml

/-! ## Anchors -/

/-- A name behind its indicator. -/
def anchorName? (p : Place) : Option (String × Place) :=
  let (name, p) := p.span isNameChar
  let ended := match p.front? with
    | none => true
    | some c => isBlank c || isBreak c || "?:,]\x7d%@\x60".toList.contains c
  if !name.isEmpty && ended then some (.ofList name, p) else none

/-! ## Tags -/

namespace Tag

/-- The characters of a suffix, apart from escapes. The indicators of flow are
among them only in angle brackets. -/
def isSuffixChar (verbatim : Bool) (c : Char) : Bool :=
  isNameChar c || ";/?:@&=+$.!~*\x27()".toList.contains c ||
    (verbatim && (c = ',' || c = '[' || c = ']'))

/-- The byte in front that is written as a percent sign and two digits. -/
def escapedByte? (p : Place) : Option (Nat × Place) :=
  match p.rest with
  | '%' :: a :: b :: _ => do return (16 * (← Digits.hexValue? a) + (← Digits.hexValue? b), p.skip 3)
  | _ => none

/-- The escaped bytes in front that continue a character. -/
def escapedTail? : Nat → Nat → Place → Option (Nat × Place)
  | 0, n, p => some (n, p)
  | count + 1, n, p => do
    let (byte, p) ← escapedByte? p
    if byte / 0x40 = 2 then escapedTail? count (n * 0x40 + byte % 0x40) p else none

/-- The character whose bytes are escaped in front. -/
def escapedChar? (p : Place) : Option (Char × Place) := do
  let (byte, p) ← escapedByte? p
  let (n, p) ←
    if byte < 0x80 then some (byte, p)
    else if byte / 0x20 = 6 then escapedTail? 1 (byte % 0x20) p
    else if byte / 0x10 = 14 then escapedTail? 2 (byte % 0x10) p
    else if byte / 8 = 30 then escapedTail? 3 (byte % 8) p
    else none
  if n.isValidChar then some (Char.ofNat n, p) else none

/-- The characters of a suffix in front, in reverse before `done`. -/
def suffix? (verbatim : Bool) : Nat → List Char → Place → Option (List Char × Place)
  | 0, _, _ => none
  | fuel + 1, done, p =>
    match p.front? with
    | some '%' => do
      let (c, p) ← escapedChar? p
      suffix? verbatim fuel (c :: done) p
    | some c =>
      if isSuffixChar verbatim c then suffix? verbatim fuel (c :: done) (p.skip 1)
      else some (done.reverse, p)
    | none => some (done.reverse, p)

/-- A suffix in front that is not empty. -/
def givenSuffix? (verbatim : Bool) (p : Place) : Option (List Char × Place) :=
  match suffix? verbatim (p.rest.length + 1) [] p with
  | some ([], _) => none
  | read => read

/-- The text of a part of a tag, which an escaped NUL ends. -/
def textOf (cs : List Char) : String := .ofList (cs.takeWhile (· != '\x00'))

/-- The handle and the suffix of the tag in front. -/
def parts? (p : Place) : Option (String × String × Place) :=
  if p.second? = some '<' then do
    let (suffix, p) ← givenSuffix? true (p.skip 2)
    if p.front? = some '>' then some ("", textOf suffix, p.skip 1) else none
  else
    let (name, p) := (p.skip 1).span isNameChar
    if p.front? = some '!' then do
      let (suffix, p) ← givenSuffix? false (p.skip 1)
      return (.ofList ('!' :: name ++ ['!']), textOf suffix, p)
    else do
      let (suffix, p) ← suffix? false (p.rest.length + 1) [] p
      let suffix := name ++ suffix
      return if suffix.isEmpty then ("", "!", p) else ("!", textOf suffix, p)

/-- The tag in front. In a flow collection a comma may follow it directly. -/
def read? (flow : Bool) (p : Place) : Option (Token × Place) := do
  let (handle, suffix, p) ← parts? p
  if endsWord p.front? || (flow && p.front? = some ',') then some (.tag handle suffix, p) else none

end Tag

/-! ## Directives -/

namespace Directive

/-- A number of a version in front. -/
def number? (p : Place) : Option (Nat × Place) :=
  let (digits, p) := p.span Char.isDigit
  if digits.isEmpty || decide (9 < digits.length) then none
  else some (Digits.decimal digits, p)

def version? (p : Place) : Option (Token × Place) := do
  let (major, p) ← number? (p.skipWhile isBlank)
  if p.front? = some '.' then
    let (minor, p) ← number? (p.skip 1)
    return (.version major minor, p)
  else none

/-- A handle in front: names between exclamation marks, or one of these alone. -/
def handle? (p : Place) : Option (String × Place) :=
  if p.front? = some '!' then
    let (name, p) := (p.skip 1).span isNameChar
    if p.front? = some '!' then some (.ofList ('!' :: name ++ ['!']), p.skip 1)
    else if name.isEmpty then some ("!", p)
    else none
  else none

def meaning? (p : Place) : Option (Token × Place) := do
  let (name, p) ← handle? (p.skipWhile isBlank)
  if p.front?.any isBlank then
    let (meaning, p) ← Tag.givenSuffix? true (p.skipWhile isBlank)
    if endsWord p.front? then some (.handle name (Tag.textOf meaning), p) else none
  else none

/-- The directive in front and the start of the next line. -/
def read? (p : Place) : Option (Token × Place) := do
  let (name, p) := (p.skip 1).span isNameChar
  if !endsWord p.front? then none
  else
    let (token, p) ←
      if name = "YAML".toList then version? p
      else if name = "TAG".toList then meaning? p
      else none
    let p := p.skipWhile isBlank
    let p := if p.front? = some '#' then p.skipLine else p
    match p.breakLine? with
    | some (_, p) => some (token, p)
    | none => if p.rest.isEmpty then some (token, p) else none

end Directive

end Specimen.Yaml

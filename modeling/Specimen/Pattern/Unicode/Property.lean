import Specimen.Pattern.CharClass
import Specimen.Pattern.Unicode.Letters
import Specimen.Pattern.Unicode.Marks
import Specimen.Pattern.Unicode.Scripts
import Specimen.Pattern.Unicode.Symbols

/-!
# Character properties

The classes that a pattern can name: the general categories and their groups,
and the classes behind the one-letter escapes.
-/

namespace Specimen.Unicode

/-- The class of several tables together. -/
def classOf (tables : List (List (Nat × Nat))) : CharClass :=
  tables.foldl (fun cls table => cls.union (.ofTable table)) .empty

/-- Blanks, tabs and line ends of every script. -/
def whiteSpace : CharClass := .ofTable
  [(0x9, 0xD), (0x20, 0x20), (0x85, 0x85), (0xA0, 0xA0), (0x1680, 0x1680), (0x2000, 0x200A),
    (0x2028, 0x2029), (0x202F, 0x202F), (0x205F, 0x205F), (0x3000, 0x3000)]

def decimalDigits : CharClass := .ofTable decimalNumber

/-- Enclosed letters, which are symbols by category and letters by use. -/
def enclosedLetter : List (Nat × Nat) :=
  [(0x24B6, 0x24E9), (0x1F130, 0x1F149), (0x1F150, 0x1F169), (0x1F170, 0x1F189)]

/-- The characters that join their neighbours or keep them apart. -/
def joinControl : List (Nat × Nat) := [(0x200C, 0x200D)]

/-- The characters that words are made of. -/
def wordCharacters : CharClass :=
  classOf [uppercaseLetter, lowercaseLetter, titlecaseLetter, modifierLetter, otherLetter,
    nonspacingMark, spacingMark, enclosingMark, decimalNumber, letterNumber, connectorPunctuation,
    enclosedLetter, joinControl]

/-- Letters, marks that stand for sounds, and numbers that are written with letters. -/
def alphabetic : CharClass :=
  classOf [uppercaseLetter, lowercaseLetter, titlecaseLetter, modifierLetter, otherLetter,
    letterNumber, enclosedLetter, alphabeticMark]

/-- Lower-case letters and whatever else is written like them. -/
def lowercase : CharClass := classOf [lowercaseLetter, lowercaseForm]

/-- Upper-case letters, and numerals and enclosed letters that are written like
them. -/
def uppercase : CharClass :=
  classOf [uppercaseLetter,
    [(0x2160, 0x216F), (0x24B6, 0x24CF), (0x1F130, 0x1F149), (0x1F150, 0x1F169),
      (0x1F170, 0x1F189)]]

def hexDigits : CharClass := .ofTable
  [(0x30, 0x39), (0x41, 0x46), (0x61, 0x66), (0xFF10, 0xFF19), (0xFF21, 0xFF26),
    (0xFF41, 0xFF46)]

/-- Numbers of every kind. -/
def numeric : CharClass := classOf [decimalNumber, letterNumber, otherNumber]

/-- Each general category by its short and its long name. -/
def categories : List (String × String × List (List (Nat × Nat))) :=
  [("lu", "uppercaseletter", [uppercaseLetter]), ("ll", "lowercaseletter", [lowercaseLetter]),
    ("lt", "titlecaseletter", [titlecaseLetter]), ("lm", "modifierletter", [modifierLetter]),
    ("lo", "otherletter", [otherLetter]),
    ("lc", "casedletter", [uppercaseLetter, lowercaseLetter, titlecaseLetter]),
    ("l", "letter",
      [uppercaseLetter, lowercaseLetter, titlecaseLetter, modifierLetter, otherLetter]),
    ("mn", "nonspacingmark", [nonspacingMark]), ("mc", "spacingmark", [spacingMark]),
    ("me", "enclosingmark", [enclosingMark]),
    ("m", "mark", [nonspacingMark, spacingMark, enclosingMark]),
    ("nd", "decimalnumber", [decimalNumber]), ("nl", "letternumber", [letterNumber]),
    ("no", "othernumber", [otherNumber]),
    ("n", "number", [decimalNumber, letterNumber, otherNumber]),
    ("pc", "connectorpunctuation", [connectorPunctuation]),
    ("pd", "dashpunctuation", [dashPunctuation]), ("ps", "openpunctuation", [openPunctuation]),
    ("pe", "closepunctuation", [closePunctuation]),
    ("pi", "initialpunctuation", [initialPunctuation]),
    ("pf", "finalpunctuation", [finalPunctuation]), ("po", "otherpunctuation", [otherPunctuation]),
    ("p", "punctuation",
      [connectorPunctuation, dashPunctuation, openPunctuation, closePunctuation,
        initialPunctuation, finalPunctuation, otherPunctuation]),
    ("sm", "mathsymbol", [mathSymbol]), ("sc", "currencysymbol", [currencySymbol]),
    ("sk", "modifiersymbol", [modifierSymbol]), ("so", "othersymbol", [otherSymbol]),
    ("s", "symbol", [mathSymbol, currencySymbol, modifierSymbol, otherSymbol]),
    ("zs", "spaceseparator", [spaceSeparator]), ("zl", "lineseparator", [lineSeparator]),
    ("zp", "paragraphseparator", [paragraphSeparator]),
    ("z", "separator", [spaceSeparator, lineSeparator, paragraphSeparator]),
    ("cc", "control", [control]), ("cf", "format", [formatCharacter]),
    ("co", "privateuse", [privateUse])]

/-- The characters of every general category. -/
def assigned : CharClass := classOf (categories.flatMap fun (_, _, tables) => tables)

/-- A name without the differences that do not count: case, blanks, hyphens, low
lines, whatever is not ASCII and a leading `is`. -/
def plainName (name : List Char) : String :=
  let plain (cs : List Char) : List Char :=
    (cs.filter fun c => c ≠ ' ' ∧ c ≠ '_' ∧ c ≠ '-' ∧ c.toNat < 0x80).map Char.toLower
  match name.take 2 |>.map Char.toLower with
  | ['i', 's'] =>
    let rest := plain (name.drop 2)
    if rest = ['c'] then "isc" else .ofList rest
  | _ => .ofList (plain name)

/-- The general category with a plain name. -/
def category? (name : String) : Option CharClass :=
  if name = "any" then some .all
  else if name = "ascii" then some (.ofTable [(0, 0x7F)])
  else if name = "assigned" then some assigned
  else if name = "cn" ∨ name = "unassigned" then some assigned.negate
  else if name = "c" ∨ name = "other" then
    some (assigned.negate.union (classOf [control, formatCharacter, privateUse]))
  else
    let name := match name with
      | "punct" => "p"
      | "digit" => "nd"
      | "cntrl" => "cc"
      | "combiningmark" => "m"
      | name => name
    (categories.find? fun (short, long, _) => short = name ∨ long = name).map
      fun (_, _, tables) => classOf tables

/-- The characters of the script with a plain name. -/
def script? (name : String) : Option CharClass :=
  (scripts.find? fun (names, _) => names.contains name).map fun (_, table) => .ofTable table

/-- The characters with the property with a plain name, for properties that a
character has or has not. -/
def binary? (name : String) : Option CharClass :=
  match name with
  | "whitespace" | "wspace" | "space" => some whiteSpace
  | "joincontrol" | "joinc" => some (.ofTable joinControl)
  | "alphabetic" | "alpha" => some alphabetic
  | "lowercase" | "lower" => some lowercase
  | "uppercase" | "upper" => some uppercase
  | "hexdigit" | "hex" => some hexDigits
  | "asciihexdigit" | "ahex" => some (.ofTable [(0x30, 0x39), (0x41, 0x46), (0x61, 0x66)])
  | "emoji" => some (.ofTable emoji)
  | _ => none

/-- The characters that a plain name alone stands for: those with a property, else
those of a general category, else those of a script. -/
def property? (name : String) : Option CharClass :=
  (binary? name).or ((category? name).or (script? name))

end Specimen.Unicode

import Specimen.Digits
import Specimen.Pieces

/-!
# Addresses

Uniform resource identifiers and references to them (RFC 3986), and their
international form, which has characters beyond ASCII as well. A reference is
resolved against a base by putting the parts that it lacks in front of it.
-/

namespace Specimen.Validation

/-- The five parts of an address. -/
structure Uri where
  scheme : Option (List Char) := none
  authority : Option (List Char) := none
  path : List Char := []
  query : Option (List Char) := none
  fragment : Option (List Char) := none
deriving DecidableEq

namespace Uri

/-! ## Parts -/

/-- The text before the first `mark` and, if there is one, the text after it. -/
def cut (mark : Char) (text : List Char) : List Char × Option (List Char) :=
  match text.span (· != mark) with
  | (front, []) => (front, none)
  | (front, _ :: rest) => (front, some rest)

/-- Whether a text can name a scheme. -/
def isScheme (text : List Char) : Bool :=
  match text with
  | [] => false
  | c :: rest => c.isAlpha && rest.all fun c => c.isAlphanum || "+-.".toList.contains c

/-- The parts of a text. -/
def ofText (text : List Char) : Uri :=
  let (text, fragment) := cut '#' text
  let (text, query) := cut '?' text
  let (scheme, text) := match cut ':' text with
    | (scheme, some rest) => if isScheme scheme then (some scheme, rest) else (none, text)
    | _ => (none, text)
  match text with
  | '/' :: '/' :: rest =>
    let (authority, path) := rest.span (· != '/')
    { scheme, authority := some authority, path, query, fragment }
  | path => { scheme, path, query, fragment }

/-- The text that has the parts. -/
def toText (u : Uri) : List Char :=
  let part (front : List Char) : Option (List Char) → List Char
    | some text => front ++ text
    | none => []
  (match u.scheme with
    | some scheme => scheme ++ [':']
    | none => []) ++
    part ['/', '/'] u.authority ++ u.path ++ part ['?'] u.query ++ part ['#'] u.fragment

/-- The address of a whole document. -/
def withoutFragment (u : Uri) : Uri := { u with fragment := none }

/-! ## Well-formed addresses -/

/-- The characters beyond ASCII that international addresses have. -/
def isInternational (c : Char) : Bool := 0xA0 ≤ c.toNat

/-- Whether every character is in a class or is a percent sign before two
hexadecimal digits. -/
def hasOnly (accepts : Char → Bool) : List Char → Bool
  | [] => true
  | '%' :: a :: b :: rest => Digits.isHex a && Digits.isHex b && hasOnly accepts rest
  | c :: rest => c != '%' && accepts c && hasOnly accepts rest

def isUnreserved (international : Bool) (c : Char) : Bool :=
  c.isAlphanum || "-._~".toList.contains c || (international && isInternational c)

def isNameChar (international : Bool) (c : Char) : Bool :=
  isUnreserved international c || "!$&\x27()*+,;=".toList.contains c

def isPathChar (international : Bool) (c : Char) : Bool :=
  isNameChar international c || c = ':' || c = '@' || c = '/'

/-! ## Numeric hosts -/

/-- Whether a text is a number below 256 without needless zeros. -/
def isByte (text : List Char) : Bool :=
  !text.isEmpty && decide (text.length ≤ 3) && text.all Char.isDigit &&
    (text.length = 1 || text.head? != some '0') &&
    decide (Digits.decimal text < 256)

def isIPv4 (text : List Char) : Bool :=
  let parts := pieces '.' text
  parts.length = 4 && parts.all isByte

/-- How many groups of 16 bits a part of an address has, if it is well-formed.
The last two may be written as an address of the older kind. -/
def groups? (text : List Char) : Option Nat :=
  if text.isEmpty then some 0
  else
    let parts := pieces ':' text
    let isGroup (part : List Char) :=
      !part.isEmpty && decide (part.length ≤ 4) && part.all Digits.isHex
    match parts.reverse with
    | [] => none
    | last :: front =>
      if !front.all isGroup then none
      else if isGroup last then some parts.length
      else if isIPv4 last then some (parts.length + 1)
      else none

/-- The parts of a text before and after the first two colons in a row. -/
def cutColons : List Char → Option (List Char × List Char)
  | ':' :: ':' :: rest => some ([], rest)
  | c :: rest => (cutColons rest).map fun (front, rest) => (c :: front, rest)
  | [] => none

/-- Whether a text has eight groups. Two colons in a row stand for one group of
zeros or more. -/
def isIPv6 (text : List Char) : Bool :=
  match cutColons text with
  | none => groups? text = some 8
  | some (front, back) =>
    match groups? front, groups? back with
    | some m, some n => decide (m + n < 8) && (front.isEmpty || !front.contains '.')
    | _, _ => false

/-! ## Checks -/

def isHost (international : Bool) (text : List Char) : Bool :=
  match text with
  | '[' :: rest =>
    match rest.reverse with
    | ']' :: literal => isIPv6 literal.reverse
    | _ => false
  | text => hasOnly (isNameChar international) text

/-- A host, with a user before it and a port behind it if there are any. -/
def isAuthority (international : Bool) (text : List Char) : Bool :=
  let (user, host) := match cut '@' text with
    | (user, some host) => (user, host)
    | (host, none) => ([], host)
  let isLiteral := host.head? = some '['
  let (host, port) :=
    if isLiteral then
      let (literal, rest) := host.span (· != ']')
      (literal ++ rest.take 1, rest.drop 1)
    else
      let (host, rest) := host.span (· != ':')
      (host, rest)
  let isPort := match port with
    | [] => true
    | ':' :: digits => digits.all Char.isDigit
    | _ => false
  hasOnly (fun c => isNameChar international c || c = ':') user &&
    isHost international host && isPort

/-- Whether a text is a reference to an address. -/
def isReference (international : Bool) (text : List Char) : Bool :=
  let u := ofText text
  let isQueryChar (c : Char) := isPathChar international c || c = '?'
  (match u.authority with
    | some authority =>
      isAuthority international authority && (u.path.isEmpty || u.path.head? = some '/')
    | none => u.scheme.isSome || !((u.path.takeWhile (· != '/')).contains ':')) &&
    hasOnly (isPathChar international) u.path &&
    (u.query.all (hasOnly isQueryChar)) && (u.fragment.all (hasOnly isQueryChar))

/-- Whether a text is an address. -/
def isAddress (international : Bool) (text : List Char) : Bool :=
  (ofText text).scheme.isSome && isReference international text

/-! ## Resolution -/

/-- A path without single and double dots, its pieces in reverse in `done`. -/
def dropDots (done : List (List Char)) : List (List Char) → List (List Char)
  | [] => done.reverse
  | [piece] =>
    if piece = ['.'] then ([] :: done).reverse
    else if piece = ['.', '.'] then ([] :: done.tail).reverse
    else (piece :: done).reverse
  | piece :: rest =>
    if piece = ['.'] then dropDots done rest
    else if piece = ['.', '.'] then dropDots done.tail rest
    else dropDots (piece :: done) rest

def plainPath (path : List Char) : List Char :=
  match path with
  | '/' :: rest => '/' :: unpieces '/' (dropDots [] (pieces '/' rest))
  | path => unpieces '/' (dropDots [] (pieces '/' path))

/-- The path of a reference that starts where the base is. -/
def mergePath (base : Uri) (path : List Char) : List Char :=
  if base.authority.isSome && base.path.isEmpty then '/' :: path
  else (base.path.reverse.dropWhile (· != '/')).reverse ++ path

/-- The address that a reference means at a base. -/
def resolve (base reference : Uri) : Uri :=
  if reference.scheme.isSome then { reference with path := plainPath reference.path }
  else if reference.authority.isSome then
    { reference with scheme := base.scheme, path := plainPath reference.path }
  else if reference.path.isEmpty then
    { base with query := reference.query.or base.query, fragment := reference.fragment }
  else
    let path :=
      if reference.path.head? = some '/' then reference.path else mergePath base reference.path
    { base with
      path := plainPath path
      query := reference.query
      fragment := reference.fragment }

end Uri

end Specimen.Validation

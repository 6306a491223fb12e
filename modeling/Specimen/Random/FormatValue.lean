import Specimen.Calendar
import Specimen.Random.FirstNames
import Specimen.Random.Text
import Specimen.Schema.Kind

/-!
# Values of string formats

A random text for each string format. Instants lie in the years up to the last
one that 31 bits of seconds reach, and names use reserved domains.
-/

namespace Specimen.Draw

variable {σ ε : Type} [Source σ]

/-- An instant from 1970 to 2038. -/
def instant : Draw σ ε Instant := do
  let seconds ← countBetween 0 0x7FFF_FFFF
  return Calendar.ofSeconds seconds

/-- An item of a list, or the empty text if there is none. -/
def oneOf (items : List String) : Draw σ ε String := do
  return (← element items).getD ""

def lowerCase (s : String) : String := .ofList (s.toList.map Char.toLower)

def mailDomains : List String := ["com", "net", "org"]

def hostDomains : List String := ["com", "biz", "info", "name", "net", "org", "io", "co"]

def mailAddress : Draw σ ε String := do
  let name ← oneOf firstNames
  let domain ← oneOf mailDomains
  return lowerCase name ++ "@example." ++ domain

/-- A host name; its last label is drawn first. -/
def hostName : Draw σ ε String := do
  let domain ← oneOf hostDomains
  let label ← word
  return lowerCase label ++ "." ++ domain

def link : Draw σ ε String := do
  let host ← hostName
  let page ← word
  return "https://" ++ host ++ "/" ++ page

/-- The low bits of a word. -/
def lowBits (count : Nat) : Draw σ ε Nat := do
  return (← word32) % (1 <<< count)

def dottedAddress : Draw σ ε String := do
  let parts ← times 4 (lowBits 8)
  return String.intercalate "." (parts.map toString)

/-- An upper-case hexadecimal digit. -/
def upperHexDigit (n : Nat) : Char :=
  if n < 10 then Char.ofNat ('0'.toNat + n) else Char.ofNat ('A'.toNat + (n - 10))

/-- A number in upper-case hexadecimal, without zeros in front. -/
def upperHex (n : Nat) : List Char :=
  if n < 16 then [upperHexDigit n] else upperHex (n / 16) ++ [upperHexDigit (n % 16)]
termination_by n
decreasing_by omega

def groupedAddress : Draw σ ε String := do
  let parts ← times 8 (lowBits 16)
  return String.intercalate ":" (parts.map fun n => .ofList (upperHex n))

/-- The two lower-case hexadecimal digits of a byte. -/
def byteDigits (n : Nat) : List Char := [Json.hexDigit (n / 16), Json.hexDigit (n % 16)]

/-- Sixteen bytes as an identifier of version four: the version and the variant
replace the high bits of two of them, and four hyphens set the groups apart. -/
def identifierText (bytes : List Nat) : List Char :=
  let bytes := bytes.modify 6 fun b => 0x40 + b % 16
  let bytes := bytes.modify 8 fun b => 0x80 + b % 64
  let group (start count : Nat) := ((bytes.drop start).take count).flatMap byteDigits
  group 0 4 ++ '-' :: group 4 2 ++ '-' :: group 6 2 ++ '-' :: group 8 2 ++ '-' :: group 10 6

def identifier : Draw σ ε String := do
  let bytes ← times 16 (lowBits 8)
  return .ofList (identifierText bytes)

/-- A text in a string format. -/
def formatValue : Format → Draw σ ε String
  | .dateTime => do return (← instant).text
  | .date => do return (← instant).dateText
  | .time => do return (← instant).timeText
  | .email => mailAddress
  | .hostname => hostName
  | .ipv4 => dottedAddress
  | .ipv6 => groupedAddress
  | .uri => link
  | .uuid => identifier

end Specimen.Draw

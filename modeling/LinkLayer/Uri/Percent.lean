/-
  LinkLayer.Uri.Percent
  ─────────────────────
  **PERCENT ENCODING.**

  An octet outside a set of safe octets is written as `%` with two uppercase
  digits.  Each part of a URI has its own set of characters to encode; all of
  them contain the controls and everything outside ASCII.  Decoding reads
  every well-formed escape and leaves all else as it is.
-/
import LinkLayer.Text.Bytes
import LinkLayer.Text.Numeral

namespace LinkLayer.Uri

open LinkLayer.Text

/-! ## §1. The sets. -/

/-- A set of characters that are encoded. -/
abbrev EncodeSet := Char → Bool

/-- Controls, and everything past the ASCII graphic characters. -/
def controlSet : EncodeSet := fun c => c < ' ' || '~' < c

/-- The set of a path. -/
def pathSet : EncodeSet := fun c =>
  controlSet c || c ∈ [' ', '"', '<', '>', '\x60', '#', '?', '\x7b', '\x7d']

/-- The set of a user name or password. -/
def userinfoSet : EncodeSet := fun c =>
  pathSet c || c ∈ ['/', ':', ';', '=', '@', '[', '\\', ']', '^', '|']

/-- The set of a query. -/
def querySet : EncodeSet := fun c => controlSet c || c ∈ [' ', '"', '#', '<', '>']

/-! ## §2. Encoding. -/

/-- The uppercase hexadecimal digit of a value below sixteen. -/
def upperHexDigit (n : Nat) : Char :=
  if n < 10 then Char.ofNat (48 + n) else Char.ofNat (55 + n)

/-- The escape of an octet. -/
def escapeByte (b : UInt8) : List Char :=
  ['%', upperHexDigit (b.toNat / 16), upperHexDigit (b.toNat % 16)]

/-- A character, or the escapes of its octets if it is in the set. -/
def encodeChar (set : EncodeSet) (c : Char) : List Char :=
  if set c then (String.utf8EncodeChar c).flatMap escapeByte else [c]

/-- A text with the characters of the set encoded. -/
def percentEncode (set : EncodeSet) (cs : List Char) : List Char :=
  cs.flatMap (encodeChar set)

/-! ## §3. Decoding. -/

/-- The value of a hexadecimal digit given as an octet. -/
def hexOctet? (b : UInt8) : Option Nat := hexValue? (Char.ofNat b.toNat)

/-- The octet that an escape stands for, if its two digits are digits. -/
def escaped? (hi lo : UInt8) : Option UInt8 :=
  match hexOctet? hi, hexOctet? lo with
  | some h, some l => some (UInt8.ofNat (h * 16 + l))
  | _, _ => none

/-- The octets of a text with its escapes read. -/
def percentDecode : Bytes → Bytes
  | [] => []
  | [b] => [b]
  | [b, c] => [b, c]
  | b :: hi :: lo :: rest =>
      match (if b = 0x25 then escaped? hi lo else none) with
      | some e => e :: percentDecode rest
      | none => b :: percentDecode (hi :: lo :: rest)

/-! ## §4. Form data. -/

/-- A name or a value of form data: plus signs stand for spaces, escapes are
read, and what is then no UTF-8 becomes U+FFFD. -/
def formDecode (cs : List Char) : String :=
  String.ofList (utf8Lossy (percentDecode (utf8Chars (cs.map fun c => if c = '+' then ' ' else c))))

/-- One pair of form data; without an equals sign the value is empty. -/
def formPair (cs : List Char) : String × String :=
  match cutFirst? '=' cs with
  | some (name, value) => (formDecode name, formDecode value)
  | none => (formDecode cs, "")

/-- The pairs of form data: the non-empty parts between ampersands. -/
def formPairs (query : List Char) : List (String × String) :=
  ((splitAt '&' query).filter (· ≠ [])).map formPair

end LinkLayer.Uri

/-
  LinkLayer.Text.Hex
  ──────────────────
  **HEXADECIMAL TEXT OF BYTE STRINGS.**

  `Hex.encode` writes two lowercase digits an octet, high half first.
  `Hex.decode` reads digits of either case and reports, in this order:

    • an odd number of octets in the text,
    • the first octet of the text that is no digit, with its position.
-/
import LinkLayer.Text.Bytes
import LinkLayer.Text.Quoted

namespace LinkLayer.Text.Hex

/-! ## §1. Writing. -/

/-- The two digits of an octet. -/
def encodeByte (b : UInt8) : List Char :=
  [hexDigit (b.toNat / 16), hexDigit (b.toNat % 16)]

/-- The hexadecimal text of a byte string. -/
def encode (bs : Bytes) : String := String.ofList (bs.flatMap encodeByte)

/-! ## §2. Reading. -/

/-- Why a text is not hexadecimal. -/
inductive DecodeError where
  | oddLength
  | badDigit (byte : UInt8) (position : Nat)
  deriving Repr, DecidableEq

/-- The wording of a reading error.  An offending octet is shown as the
character of the same number. -/
def DecodeError.message : DecodeError → String
  | .oddLength => "Odd number of digits"
  | .badDigit b i =>
      s!"Invalid character {quoteChar (Char.ofNat b.toNat)} at position {i}"

/-- The value of a digit, of either case. -/
def digitValue? (b : UInt8) : Option Nat :=
  let n := b.toNat
  if 48 ≤ n ∧ n ≤ 57 then some (n - 48)
  else if 97 ≤ n ∧ n ≤ 102 then some (n - 87)
  else if 65 ≤ n ∧ n ≤ 70 then some (n - 55)
  else none

/-- Read pairs of digits, the first of which stands at position `i`. -/
def decodePairs : Nat → Bytes → Except DecodeError Bytes
  | _, [] => .ok []
  | _, [_] => .error .oddLength
  | i, hi :: lo :: rest =>
      match digitValue? hi with
      | none => .error (.badDigit hi i)
      | some h =>
          match digitValue? lo with
          | none => .error (.badDigit lo (i + 1))
          | some l =>
              match decodePairs (i + 2) rest with
              | .error e => .error e
              | .ok bs => .ok (UInt8.ofNat (h * 16 + l) :: bs)

/-- The octets that a hexadecimal text stands for.  Length and positions are
counted in the octets of the text. -/
def decode (s : String) : Except DecodeError Bytes :=
  let digits := utf8 s
  if digits.length % 2 = 1 then .error .oddLength else decodePairs 0 digits

end LinkLayer.Text.Hex

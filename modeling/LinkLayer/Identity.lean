/-
  LinkLayer.Identity
  ──────────────────
  **NODE IDENTITIES.**

  A node is known by its public key, thirty-two octets.  The text of an
  identity is its lowercase hexadecimal form; a reader takes either case and
  ignores white space at the ends.  Each identity also determines an address
  inside `0200::/7` (`Identity.address`):

    • the key is inverted,
    • the second octet counts its leading one bits,
    • the bits after the first zero fill the rest, as far as they make up
      complete octets.
-/
import LinkLayer.BitScan
import LinkLayer.Text.Hex
import LinkLayer.Text.Basic
import LinkLayer.Net.Ip

namespace LinkLayer

open LinkLayer.Text

/-! ## §1. Identities and their text. -/

/-- The number of octets of a public key. -/
def publicKeyLength : Nat := 32

/-- The public key of a node. -/
structure Identity where
  bytes : Bytes
  length_eq : bytes.length = publicKeyLength
  deriving Repr, DecidableEq

namespace Identity

/-- The identity with the given octets, if there are thirty-two. -/
def ofBytes? (bs : Bytes) : Option Identity :=
  if h : bs.length = publicKeyLength then some ⟨bs, h⟩ else none

/-- The identity that repeats one octet. -/
def replicate (b : UInt8) : Identity :=
  ⟨List.replicate publicKeyLength b, List.length_replicate⟩

/-- The lowercase hexadecimal text of an identity. -/
def text (k : Identity) : String := Hex.encode k.bytes

/-- The abbreviated form of an identity in diagnostics: the first eight
octets. -/
def shortText (k : Identity) : String := s!"PeerIdentity({Hex.encode (k.bytes.take 8)})"

/-- Order of the octets, first difference deciding. -/
def lexLE : Bytes → Bytes → Bool
  | [], _ => true
  | _ :: _, [] => false
  | a :: as, b :: bs => a < b || (a = b && lexLE as bs)

/-- Identities are ordered by their octets. -/
def le (a b : Identity) : Bool := lexLE a.bytes b.bytes

/-- Why a text is not an identity. -/
inductive ParseError where
  | notHex (cause : Hex.DecodeError)
  | wrongLength (actual : Nat)
  deriving Repr, DecidableEq

/-- The wording of a reading error. -/
def ParseError.message : ParseError → String
  | .notHex e => e.message
  | .wrongLength n => s!"expected {publicKeyLength} bytes, got {n}"

/-- The identity that a text stands for, white space at its ends aside. -/
def parse (s : String) : Except ParseError Identity :=
  match Hex.decode (trim s) with
  | .error e => .error (.notHex e)
  | .ok bs =>
      match ofBytes? bs with
      | some k => .ok k
      | none => .error (.wrongLength bs.length)

/-! ## §2. The address of an identity. -/

/-- The first octet of every address. -/
def addressMarker : UInt8 := 0x02

/-- The key with each of its bits inverted. -/
def inverted (k : Identity) : Bytes := k.bytes.map (~~~ ·)

/-- The address of an identity, with whatever could fail on the way to it. -/
def address? (k : Identity) : Option Ipv6 := do
  let scan ← BitScan.over? k.inverted
  let octets ← scan.octets? addressMarker
  Ipv6.ofOctets? octets

/-- The address of an identity. -/
def address (k : Identity) : Ipv6 := k.address?.getD Ipv6.unspecified

end Identity

end LinkLayer

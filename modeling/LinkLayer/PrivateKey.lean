/-
  LinkLayer.PrivateKey
  ────────────────────
  **PRIVATE KEYS OF NODES.**

  A private key is a seed of thirty-two octets.  Its text is hexadecimal:
  either the seed alone, or the seed followed by its public key, which then
  has to match.  The key is written in the longer form.

  How public keys are made of seeds is a `KeyScheme`; nodes use the one of the
  Edwards curve.
-/
import LinkLayer.Crypto.Ed25519
import LinkLayer.Identity

namespace LinkLayer

open LinkLayer.Text

/-- The number of octets of a seed. -/
def seedLength : Nat := 32

/-- A private key, given by its seed. -/
structure PrivateKey where
  seed : Bytes
  length_eq : seed.length = seedLength
  deriving Repr, DecidableEq

/-- How public keys are made of seeds. -/
structure KeyScheme where
  publicKey : Bytes → Bytes
  length_publicKey : ∀ seed, (publicKey seed).length = publicKeyLength

/-- The scheme of the Edwards curve 25519. -/
def KeyScheme.ed25519 : KeyScheme := ⟨Crypto.publicKey, Crypto.publicKey_length⟩

namespace PrivateKey

/-- The identity of the node that holds a key. -/
def identity (scheme : KeyScheme) (k : PrivateKey) : Identity :=
  ⟨scheme.publicKey k.seed, scheme.length_publicKey k.seed⟩

/-- The text of a key: seed and public key. -/
def encode (scheme : KeyScheme) (k : PrivateKey) : String :=
  Hex.encode (k.seed ++ (k.identity scheme).bytes)

/-- Why a text is not a private key. -/
inductive ParseError where
  | notHex (cause : Hex.DecodeError)
  | wrongLength (actual : Nat)
  | mismatch
  deriving Repr, DecidableEq

/-- The wording of the faults of a key whose text is hexadecimal. -/
def ParseError.message : ParseError → String
  | .notHex e => e.message
  | .wrongLength n => s!"expected 32 or 64 bytes, got {n}"
  | .mismatch => "public half does not match the seed"

/-- The key with the given octets. -/
def ofBytes (scheme : KeyScheme) (bs : Bytes) : Except ParseError PrivateKey :=
  if h : bs.length = seedLength ∨ bs.length = 2 * seedLength then
    let key : PrivateKey := ⟨bs.take seedLength, by
      rw [List.length_take]; unfold seedLength at *; omega⟩
    if bs.length = 2 * seedLength ∧ (key.identity scheme).bytes ≠ bs.drop seedLength then
      .error .mismatch
    else .ok key
  else .error (.wrongLength bs.length)

/-- The key that a text stands for, white space at its ends aside. -/
def parse (scheme : KeyScheme) (s : String) : Except ParseError PrivateKey :=
  match Hex.decode (trim s) with
  | .error e => .error (.notHex e)
  | .ok bs => ofBytes scheme bs

end PrivateKey

end LinkLayer

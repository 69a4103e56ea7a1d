/-
  LinkLayer.Frame
  ───────────────
  **THE HANDSHAKE FRAME.**

  Both ends of a new connection send one frame of thirty-five octets:

      major · minor · identity (32 octets) · metric

  There is no length field.  Nodes agree to talk if their major versions are
  equal; the cost of a link is the larger of the two metrics.
-/
import LinkLayer.Identity

namespace LinkLayer

/-! ## §1. Frames. -/

/-- The major version that this node speaks. -/
def protocolMajor : UInt8 := 0

/-- The minor version that this node speaks. -/
def protocolMinor : UInt8 := 4

/-- The number of octets of a frame. -/
def frameLength : Nat := 2 + publicKeyLength + 1

/-- What one end tells the other in the handshake. -/
structure Frame where
  major : UInt8
  minor : UInt8
  identity : Identity
  metric : UInt8
  deriving Repr, DecidableEq

namespace Frame

/-- The frame that a node of this version sends. -/
def own (identity : Identity) (metric : UInt8) : Frame :=
  ⟨protocolMajor, protocolMinor, identity, metric⟩

/-- Whether the sender of a frame speaks a compatible version. -/
def isCompatible (f : Frame) : Bool := f.major = protocolMajor

/-- A version in the form `major.minor`. -/
def versionText (major minor : UInt8) : String := s!"{major.toNat}.{minor.toNat}"

/-- The version that the sender of a frame speaks. -/
def version (f : Frame) : String := versionText f.major f.minor

/-- The version that this node speaks. -/
def ownVersion : String := versionText protocolMajor protocolMinor

/-! ## §2. The wire form. -/

/-- The octets of a frame. -/
def encode (f : Frame) : Bytes := f.major :: f.minor :: (f.identity.bytes ++ [f.metric])

/-- A byte string of a length that no frame has. -/
structure LengthError where
  actual : Nat
  deriving Repr, DecidableEq

/-- The wording of a length error. -/
def LengthError.message (e : LengthError) : String :=
  s!"metadata frame has wrong length (expected {frameLength}, got {e.actual})"

/-- The frame that a byte string stands for. -/
def decode (bs : Bytes) : Except LengthError Frame :=
  match bs with
  | major :: minor :: rest =>
      match Identity.ofBytes? (rest.take publicKeyLength), rest.drop publicKeyLength with
      | some identity, [metric] => .ok ⟨major, minor, identity, metric⟩
      | _, _ => .error ⟨bs.length⟩
  | _ => .error ⟨bs.length⟩

end Frame

/-! ## §3. Metrics. -/

/-- The cost of a link by what the two ends claim: the larger of the two. -/
def effectiveMetric (mine theirs : UInt8) : UInt8 := max mine theirs

end LinkLayer

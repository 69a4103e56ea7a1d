/-
  LinkLayer.Error
  ───────────────
  **ERRORS AND THEIR WORDING.**

  Three families of causes: what is wrong with a configuration
  (`ConfigError`), what goes wrong in a transport (`TransportError`), and
  what ends a link early (`LinkError`), which takes in the other two.  A
  rejection by the allow-list and a duplicate are outcomes of a link and not
  errors, so they are not here.
-/
import LinkLayer.Frame
import LinkLayer.Link.Key
import LinkLayer.Link.Stage

namespace LinkLayer

/-! ## §1. Configuration. -/

/-- What is wrong with a configuration. -/
inductive ConfigError where
  | invalidPublicKey (key : String) (cause : Identity.ParseError)
  | invalidListen (uri reason : String)
  | validation (reason : String)
  deriving Repr, DecidableEq

/-- The wording of a configuration error. -/
def ConfigError.message : ConfigError → String
  | .invalidPublicKey key cause => s!"Invalid public key {key}: {cause.message}"
  | .invalidListen uri reason => s!"Invalid listen address {uri}: {reason}"
  | .validation reason => s!"Configuration validation failed: {reason}"

/-! ## §2. Transports. -/

/-- What goes wrong in a transport.  `io` carries the words of the system. -/
inductive TransportError where
  | io (reason : String)
  | unavailable (kind : Kind) (reason : String)
  | dialTimeout (target : String) (millis : Nat)
  | invalidAddress (address reason : String)
  | upgrade (reason : String)
  | stopped
  deriving Repr, DecidableEq

/-- The wording of a transport error. -/
def TransportError.message : TransportError → String
  | .io reason => s!"Network I/O error: {reason}"
  | .unavailable kind reason => s!"Transport is not available: {kind.scheme} ({reason})"
  | .dialTimeout target millis => s!"Dial to {target} timed out after {millis}ms"
  | .invalidAddress address reason => s!"Invalid address {address}: {reason}"
  | .upgrade reason => s!"Stream upgrade failed: {reason}"
  | .stopped => "Transport stopped"

/-! ## §3. Links. -/

/-- What ends a link early. -/
inductive LinkError where
  | sendTimeout
  | sendFailed (reason : String)
  | recvTimeout
  | recvFailed (reason : String)
  | decode (cause : Frame.LengthError)
  | incompatibleVersion (mine theirs : String)
  | pinnedKeyMismatch (name : String)
  | unknownScheme (scheme : String)
  | invalidUri (uri reason : String)
  | transport (cause : TransportError)
  | config (cause : ConfigError)
  | tunnel (reason : String)
  | stateTransition (cause : Stage.MoveError)
  | stopped
  deriving Repr, DecidableEq

/-- The wording of a link error. -/
def LinkError.message : LinkError → String
  | .sendTimeout => "timeout on metadata send"
  | .sendFailed reason => s!"metadata send failed: {reason}"
  | .recvTimeout => "timeout on metadata recv"
  | .recvFailed reason => s!"metadata recv failed: {reason}"
  | .decode cause => s!"failed to decode metadata: {cause.message}"
  | .incompatibleVersion mine theirs =>
      s!"remote node is incompatible version (local {mine}, remote {theirs})"
  | .pinnedKeyMismatch name =>
      s!"failed to connect: {name} sent ed25519 key that does not match pinned keys"
  | .unknownScheme scheme => s!"unknown call scheme: {scheme}"
  | .invalidUri uri reason => s!"invalid peer URI {uri}: {reason}"
  | .transport cause => s!"Transport error: {cause.message}"
  | .config cause => s!"Configuration error: {cause.message}"
  | .tunnel reason => s!"tunnel engine error: {reason}"
  | .stateTransition cause => s!"State transition error: {cause.message}"
  | .stopped => "link layer is stopped"

/-- Whether an error says that a deadline of the handshake passed. -/
def LinkError.isTimeout : LinkError → Bool
  | .sendTimeout | .recvTimeout => true
  | _ => false

end LinkLayer

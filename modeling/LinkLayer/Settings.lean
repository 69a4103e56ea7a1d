/-
  LinkLayer.Settings
  ──────────────────
  **CONFIGURATION AND SETTINGS OF THE LINK LAYER.**

  `LinkConfig` is what a user writes: texts and numbers of seconds.
  `Settings` is what the link layer runs with.  `LinkConfig.settings` reads
  the one into the other and reports the first fault in this order: a zero
  timeout of the handshake, a zero timeout of dialling, the first bad key,
  the first bad listener.  A listener that is given more than once counts
  once.
-/
import LinkLayer.Call
import LinkLayer.Listen

namespace LinkLayer

open LinkLayer.Text

/-! ## §1. Configuration. -/

/-- The timeout of a handshake where none is given, in seconds. -/
def defaultHandshakeTimeoutSecs : Nat := 30

/-- The timeout of dialling where none is given, in seconds. -/
def defaultDialTimeoutSecs : Nat := 10

/-- The configuration of the link layer. -/
structure LinkConfig where
  listen : List String := []
  peers : List String := []
  allowedPublicKeys : List String := []
  handshakeTimeoutSecs : Nat := defaultHandshakeTimeoutSecs
  dialTimeoutSecs : Nat := defaultDialTimeoutSecs
  deriving Repr, DecidableEq

namespace LinkConfig

/-- Also listen at a place. -/
def withListen (c : LinkConfig) (uri : String) : LinkConfig :=
  { c with listen := c.listen ++ [uri] }

/-- Also call a peer. -/
def withPeer (c : LinkConfig) (uri : String) : LinkConfig :=
  { c with peers := c.peers ++ [uri] }

/-- Also allow an identity. -/
def withAllowedKey (c : LinkConfig) (k : Identity) : LinkConfig :=
  { c with allowedPublicKeys := c.allowedPublicKeys ++ [k.text] }

/-- Give a handshake another timeout. -/
def withHandshakeTimeout (c : LinkConfig) (secs : Nat) : LinkConfig :=
  { c with handshakeTimeoutSecs := secs }

end LinkConfig

/-! ## §2. Settings. -/

/-- What the link layer runs with.  Times are in milliseconds. -/
structure Settings where
  allowed : List Identity := []
  listen : List ListenSpec := []
  handshakeTimeout : Nat := defaultHandshakeTimeoutSecs * 1000
  dialTimeout : Nat := defaultDialTimeoutSecs * 1000
  deriving Repr, DecidableEq

/-- Whether an inbound peer is allowed: with no key listed, every one is. -/
def Settings.isAllowed (s : Settings) (k : Identity) : Bool := s.allowed = [] || k ∈ s.allowed

namespace LinkConfig

/-- The identity that a text stands for.  An error quotes the text as it was
written, with the white space around it. -/
def readKey (text : String) : Except ConfigError Identity :=
  (Identity.parse text).mapError (.invalidPublicKey text)

/-- The identities of a list of texts; the first bad one is the error. -/
def readKeys : List String → Except ConfigError (List Identity)
  | [] => .ok []
  | text :: rest =>
      match Identity.parse text with
      | .error e => .error (.invalidPublicKey text e)
      | .ok k =>
          match readKeys rest with
          | .error e => .error e
          | .ok ks => .ok (k :: ks)

/-- The places to listen of a list of texts; the first bad one is the
error. -/
def readListeners : List String → Except ConfigError (List ListenSpec)
  | [] => .ok []
  | text :: rest =>
      match ListenSpec.parse text with
      | .error e => .error e
      | .ok spec =>
          match readListeners rest with
          | .error e => .error e
          | .ok specs => .ok (spec :: specs)

/-- The settings that a configuration stands for. -/
def settings (c : LinkConfig) : Except ConfigError Settings :=
  if c.handshakeTimeoutSecs = 0 then
    .error (.validation "handshake timeout must be greater than 0")
  else if c.dialTimeoutSecs = 0 then
    .error (.validation "dial timeout must be greater than 0")
  else
    match readKeys c.allowedPublicKeys with
    | .error e => .error e
    | .ok keys =>
        match readListeners c.listen with
        | .error e => .error e
        | .ok specs =>
            .ok {
              allowed := firsts keys
              listen := firsts specs
              handshakeTimeout := c.handshakeTimeoutSecs * 1000
              dialTimeout := c.dialTimeoutSecs * 1000 }

end LinkConfig

end LinkLayer

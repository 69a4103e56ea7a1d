/-
  LinkLayer.NodeConfig
  ────────────────────
  **THE CONFIGURATION OF A NODE.**

  A configuration file is a TOML document:

      private_key = "<hexadecimal>"

      [link]
      listen = ["tcp://[::]:9001"]
      peers = ["tcp://192.0.2.10:9001?metric=2"]
      allowed_public_keys = []
      handshake_timeout_secs = 30
      dial_timeout_secs = 10

  Everything may be left out, and keys with other names are ignored.  A file
  is checked as it is loaded: the private key first, then the settings of
  the link layer.  Listeners and peers of the command line come behind those
  of the file.
-/
import LinkLayer.PrivateKey
import LinkLayer.Settings
import LinkLayer.Toml.Document

namespace LinkLayer

/-! ## §1. Causes. -/

/-- Why a node does not come up. -/
inductive NodeError where
  | link (cause : LinkError)
  | linkConfig (cause : ConfigError)
  | unreadable (path cause : String)
  | malformedFile
  | badKey (cause : PrivateKey.ParseError)
  deriving Repr, DecidableEq

/-- The wording of a cause.  Where in a file the fault lies is not told. -/
def NodeError.message : NodeError → String
  | .link cause => s!"Link layer error: {cause.message}"
  | .linkConfig cause => s!"Link configuration error: {cause.message}"
  | .unreadable path cause => s!"Configuration error: Failed to read {path}: {cause}"
  | .malformedFile => "TOML parsing error"
  | .badKey (.notHex cause) => s!"Hex decoding error: {cause.message}"
  | .badKey cause => s!"Invalid private key: {cause.message}"

/-! ## §2. Configurations and their check. -/

/-- The configuration of a node. -/
structure NodeConfig where
  privateKey : Option String := none
  link : LinkConfig := {}
  deriving Repr, DecidableEq

namespace NodeConfig

/-- The private key that is configured. -/
def signingKey (c : NodeConfig) : Except NodeError (Option PrivateKey) :=
  match c.privateKey with
  | none => .ok none
  | some text =>
      match PrivateKey.parse .ed25519 text with
      | .ok key => .ok (some key)
      | .error e => .error (.badKey e)

/-- Check a configuration: the private key, then the link layer. -/
def validate (c : NodeConfig) : Except NodeError Unit :=
  match c.signingKey with
  | .error e => .error e
  | .ok _ =>
      match c.link.settings with
      | .error e => .error (.linkConfig e)
      | .ok _ => .ok ()

/-- Also listen at places, and also call peers. -/
def withOverrides (c : NodeConfig) (listen peers : List String) : NodeConfig :=
  { c with link := { c.link with
      listen := c.link.listen ++ listen
      peers := c.link.peers ++ peers } }

/-! ## §3. Files. -/

/-- The text that an item is. -/
def textOf : Toml.Item → Option String
  | .text s => some s
  | _ => none

/-- The list of texts that an item is. -/
def textsOf : Toml.Item → Option (List String)
  | .array items => items.mapM textOf
  | _ => none

/-- The number of seconds that an item is. -/
def secondsOf : Toml.Item → Option Nat
  | .integer n => if 0 ≤ n then some n.toNat else none
  | _ => none

/-- The value of a key of a table: another value if the key is missing, and
none if it has the wrong type. -/
def field {α : Type} (entries : Toml.Entries) (key : String) (read : Toml.Item → Option α)
    (other : α) : Option α :=
  match entries.find? key with
  | none => some other
  | some item => read item

/-- The keys of the link layer, in their order. -/
def linkKeys : List String :=
  ["listen", "peers", "allowed_public_keys", "handshake_timeout_secs", "dial_timeout_secs"]

/-- The configuration of the link layer that a table holds. -/
def linkOfEntries (entries : Toml.Entries) : Option LinkConfig := do
  return {
    listen := ← field entries "listen" textsOf []
    peers := ← field entries "peers" textsOf []
    allowedPublicKeys := ← field entries "allowed_public_keys" textsOf []
    handshakeTimeoutSecs := ←
      field entries "handshake_timeout_secs" secondsOf defaultHandshakeTimeoutSecs
    dialTimeoutSecs := ← field entries "dial_timeout_secs" secondsOf defaultDialTimeoutSecs }

/-- The configuration of the link layer that an item is.  An array gives the
values of the keys in their order; a date counts as a table without keys. -/
def linkOf : Toml.Item → Option LinkConfig
  | .table _ entries => linkOfEntries entries
  | .array items => linkOfEntries (linkKeys.zip items)
  | .moment => linkOfEntries []
  | _ => none

/-- The configuration that a document holds. -/
def ofEntries (entries : Toml.Entries) : Option NodeConfig := do
  return {
    privateKey := ← field entries "private_key" (fun item => (textOf item).map some) none
    link := ← field entries "link" linkOf {} }

/-- Read a document and check the configuration that it holds. -/
def parse (text : String) : Except NodeError NodeConfig :=
  match (Toml.parse text).bind ofEntries with
  | none => .error .malformedFile
  | some c =>
      match c.validate with
      | .error e => .error e
      | .ok () => .ok c

/-- Load the file at a path, given what reading it came to: its text, or the
words in which the machine says why there is none. -/
def load (path : String) (content : Except String String) : Except NodeError NodeConfig :=
  match content with
  | .error e => .error (.unreadable path e)
  | .ok text => parse text

end NodeConfig

end LinkLayer

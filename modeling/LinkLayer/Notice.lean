/-
  LinkLayer.Notice
  ────────────────
  **WHAT THE LINK LAYER REPORTS.**

  Everything that is worth a line in the log is a `Notice`; a notice has a
  level and a text.  Errors that are returned to a caller are not reported
  as well, save where the caller is a task in the background.
-/
import LinkLayer.Listen

namespace LinkLayer

open LinkLayer.Text

/-! ## §1. Lines of a log. -/

/-- How much a line of the log matters. -/
inductive Level where
  | trace
  | debug
  | info
  | warn
  | error
  deriving Repr, DecidableEq

/-- The name of a level. -/
def Level.name : Level → String
  | trace => "TRACE"
  | debug => "DEBUG"
  | info => "INFO"
  | warn => "WARN"
  | error => "ERROR"

/-- A line of a log. -/
structure LogLine where
  level : Level
  message : String
  deriving Repr, DecidableEq

/-- The text of a line: its level and its message. -/
def LogLine.text (l : LogLine) : String := s!"{l.level.name} {l.message}"

/-! ## §2. Notices. -/

/-- The other end of a link, as the log names it. -/
structure Party where
  kind : Kind
  identity : Identity
  remote : String
  source : String
  deriving Repr, DecidableEq

/-- The text of the other end of a link. -/
def Party.text (p : Party) : String :=
  s!"{p.kind.label}: {p.identity.address.text}@{p.remote}, source {p.source}"

/-- What the link layer reports. -/
inductive Notice where
  | incompatibleVersion (name mine theirs : String)
  | pinnedKeyMismatch (name : String)
  | forbidden (kind : Kind) (remote : String) (identity : Identity)
  | registered (name : String)
  | foundExisting (name : String)
  | connected (party : Party)
  | disconnected (party : Party) (failure : Option String)
  | alreadyDeregistered (name : String)
  | closeFailed (reason : String)
  | closedEarly (name : String) (stage : Stage) (cause : LinkError)
  | drained (identity : Identity) (octets : Nat) (metric : UInt8)
  | callFoundExisting (uri : String)
  | callFailed (uri : String) (cause : LinkError)
  | inboundFoundExisting (name : String)
  | inboundFailed (name : String) (cause : LinkError)
  | listenerFinished (spec : ListenSpec)
  | listenerStopped (spec : ListenSpec) (bound : Endpoint)
  | listenerFailed (spec : ListenSpec) (cause : LinkError)
  | stopFailed (cause : LinkError)
  | stopped
  | accepting (kind : Kind) (bound : Endpoint)
  | acceptingFinished (kind : Kind)
  | transportStopped
  deriving Repr, DecidableEq

namespace Notice

/-- How much a notice matters. -/
def level : Notice → Level
  | incompatibleVersion .. => .warn
  | pinnedKeyMismatch .. => .error
  | forbidden .. => .warn
  | registered .. => .debug
  | foundExisting .. => .debug
  | connected .. => .info
  | disconnected .. => .info
  | alreadyDeregistered .. => .debug
  | closeFailed .. => .debug
  | closedEarly .. => .debug
  | drained .. => .trace
  | callFoundExisting .. => .debug
  | callFailed .. => .warn
  | inboundFoundExisting .. => .debug
  | inboundFailed .. => .debug
  | listenerFinished .. => .debug
  | listenerStopped .. => .info
  | listenerFailed .. => .warn
  | stopFailed .. => .warn
  | stopped => .info
  | accepting .. => .info
  | acceptingFinished .. => .debug
  | transportStopped => .debug

/-- The wording of a notice. -/
def message : Notice → String
  | incompatibleVersion name mine theirs =>
      s!"Failed to connect to node: {name} is incompatible version (local {mine}, remote {theirs})"
  | pinnedKeyMismatch name =>
      s!"Failed to connect to node: {quote name} sent ed25519 key that does not match pinned keys"
  | forbidden kind remote identity =>
      s!"{kind.label} connection from {remote} forbidden: " ++
        s!"allowed_public_keys does not contain key {identity.text}"
  | registered name => s!"registered link for {name}"
  | foundExisting name => s!"found existing link for {name}"
  | connected party => s!"Connected {party.text}"
  | disconnected party none => s!"Disconnected {party.text}"
  | disconnected party (some failure) => s!"Disconnected {party.text}; error: {failure}"
  | alreadyDeregistered name => s!"link {name} was already deregistered"
  | closeFailed reason => s!"error closing connection: {reason}"
  | closedEarly name stage cause => s!"link {name} closed in state {stage.name}: {cause.message}"
  | drained identity octets metric =>
      s!"{identity.text} closed after {octets} bytes (metric {metric.toNat})"
  | callFoundExisting uri => s!"call to {uri} found an existing link"
  | callFailed uri cause => s!"Failed to call {uri}: {cause.message}"
  | inboundFoundExisting name => s!"inbound {name} duplicates an existing link"
  | inboundFailed name cause => s!"inbound {name} failed: {cause.message}"
  | listenerFinished spec => s!"{spec.text} listener finished"
  | listenerStopped spec bound => s!"Stopped {spec.kind.label} listener on {bound.text}"
  | listenerFailed spec cause => s!"Failed to start {spec.text} listener: {cause.message}"
  | stopFailed cause => s!"Failed to stop links after listener error: {cause.message}"
  | stopped => "Link layer stopped"
  | accepting kind bound => s!"{kind.label} listener started on {bound.text}"
  | acceptingFinished kind => s!"{kind.scheme} accept loop finished"
  | transportStopped => "TCP transport stopped"

/-- The line that a notice puts into the log. -/
def line (n : Notice) : LogLine := ⟨n.level, n.message⟩

end Notice

end LinkLayer

/-
  LinkLayer.Daemon.Notice
  ───────────────────────
  **WHAT A DAEMON REPORTS.**

  A daemon is a node that runs by itself until it is interrupted.  Its log
  has notices of its own among those of the link layer.

  A temporary key is another one in every run.  `repeatableTexts` leaves it
  out, and so gives the same lines whenever the same things happen.
-/
import LinkLayer.NodeConfig
import LinkLayer.Notice
import LinkLayer.Registry

namespace LinkLayer

/-! ## §1. Notices. -/

/-- What a daemon reports. -/
inductive DaemonNotice where
  | loading (path : String)
  | defaults
  | temporaryKey
  | publicKey (identity : Identity)
  | address (identity : Identity)
  | peerRefused (uri : String) (cause : LinkError)
  | linkCount (n : Nat)
  | liveLink (handle : Handle)
  | startFailed (cause : NodeError)
  | shuttingDown
  deriving Repr, DecidableEq

namespace DaemonNotice

/-- How much a notice matters. -/
def level : DaemonNotice → Level
  | temporaryKey | peerRefused .. => .warn
  | startFailed .. => .error
  | _ => .info

/-- What a notice says before it names a key, for the notices that do. -/
def keyLabel? : DaemonNotice → Option String
  | publicKey _ => some "Public key:"
  | address _ => some "Address:"
  | _ => none

/-- The wording of a notice.  How long a link has been up is left open. -/
def message : DaemonNotice → String
  | loading path => s!"Loading configuration from: {path}"
  | defaults => "Using default configuration"
  | temporaryKey => "No private_key configured, using a temporary key"
  | publicKey k => s!"Public key: {k.text}"
  | address k => s!"Address: {k.address.text}"
  | peerRefused uri cause => s!"Failed to add peer {uri}: {cause.message}"
  | linkCount n => s!"{n} active link(s)"
  | liveLink h =>
      let arrow := if h.incoming then "<-" else "->"
      s!"  {arrow} {h.name} ({h.key.identity.text}, up Ns)"
  | startFailed cause => s!"Failed to start node: {cause.message}"
  | shuttingDown => "Shutting down"

/-- The line that a notice puts into the log. -/
def line (n : DaemonNotice) : LogLine := ⟨n.level, n.message⟩

/-- The line of a notice, without the key that it names. -/
def keylessLine (n : DaemonNotice) : LogLine := ⟨n.level, n.keyLabel?.getD n.message⟩

end DaemonNotice

/-! ## §2. Logs. -/

/-- An entry of a daemon's log. -/
inductive LogEntry where
  | daemon (n : DaemonNotice)
  | links (n : Notice)
  deriving Repr, DecidableEq

namespace LogEntry

/-- The line of an entry. -/
def line : LogEntry → LogLine
  | daemon n => n.line
  | links n => n.line

/-- The line of an entry, without the key that it names. -/
def keylessLine : LogEntry → LogLine
  | daemon n => n.keylessLine
  | links n => n.line

/-- The texts of the entries of a log. -/
def texts (log : List LogEntry) : List String := log.map fun e => e.line.text

/-- The texts of the entries of a log, without a key that is temporary. -/
def repeatableTexts (log : List LogEntry) : List String :=
  if .daemon .temporaryKey ∈ log then log.map fun e => e.keylessLine.text else texts log

/-- The entries that the daemon itself made. -/
def ownOf (log : List LogEntry) : List LogEntry :=
  log.filter fun
    | daemon _ => true
    | links _ => false

/-- Whether an entry is shown: debugging is only for those who ask for it. -/
def isShown (verbose : Bool) (e : LogEntry) : Bool :=
  match e.line.level with
  | .trace => false
  | .debug => verbose
  | _ => true

end LogEntry

end LinkLayer

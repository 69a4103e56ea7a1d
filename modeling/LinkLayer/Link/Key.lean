/-
  LinkLayer.Link.Key
  ──────────────────
  **WHAT MAKES TWO CONNECTIONS THE SAME LINK.**

  Connections to one peer, over one kind of transport, between the same two
  addresses are one link, whatever their ports.  The four parts make up the
  key under which a link is registered.
-/
import LinkLayer.Identity

namespace LinkLayer

/-! ## §1. Kinds of transport. -/

/-- What carries a connection. -/
inductive Kind where
  | tcp
  | tls
  | socks
  deriving Repr, DecidableEq

namespace Kind

/-- The scheme that names a kind in addresses. -/
def scheme : Kind → String
  | tcp => "tcp"
  | tls => "tls"
  | socks => "socks"

/-- The kind that a scheme names. -/
def ofScheme? (s : String) : Option Kind :=
  if s = "tcp" then some tcp
  else if s = "tls" then some tls
  else if s = "socks" then some socks
  else none

/-- The name of a kind in capitals, as log lines begin with it. -/
def label : Kind → String
  | tcp => "TCP"
  | tls => "TLS"
  | socks => "SOCKS"

/-- The name of a kind in diagnostics. -/
def debugText : Kind → String
  | tcp => "Tcp"
  | tls => "Tls"
  | socks => "Socks"

end Kind

/-! ## §2. Keys. -/

/-- The key of a link. -/
structure LinkKey where
  identity : Identity
  kind : Kind
  source : String
  remote : String
  deriving Repr, DecidableEq

/-- The text of a key. -/
def LinkKey.text (k : LinkKey) : String :=
  s!"{k.identity.text}@{k.remote} via {k.kind.scheme} (source {k.source})"

end LinkLayer

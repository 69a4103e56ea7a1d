/-
  LinkLayer.Transport.Basic
  ─────────────────────────
  **WHAT THE LINK LAYER ASKS OF A TRANSPORT.**

  A transport listens at a place, dials a target, and stops.  It has a state
  of its own, of any type; each request takes the state to another one and
  may be reported in the log.  What a transport delivers are connections: a
  wire, with the labels by which the link layer tells links apart.
-/
import LinkLayer.Call
import LinkLayer.Notice

namespace LinkLayer

/-- A connection: the number of its wire, and its labels. -/
structure Connection where
  wire : Nat
  kind : Kind
  name : String
  source : String
  remote : String
  deriving Repr, DecidableEq

/-- The diagnostic text of a connection. -/
def Connection.debugText (c : Connection) : String :=
  let q := Text.quote
  s!"Connection \x7b kind: {c.kind.debugText}, name: {q c.name}, " ++
    s!"local: {q c.source}, remote: {q c.remote} \x7d"

/-- What a transport can be asked. -/
inductive Request where
  | listen (spec : ListenSpec)
  | dial (target : DialTarget)
  | stop
  deriving Repr, DecidableEq

/-- What a transport with states in `σ` returns: a result or an error, its
next state, and what it reports. -/
structure Reply (σ α : Type) where
  result : Except TransportError α
  state : σ
  notices : List Notice := []

/-- A transport with states in `σ`.  A listener is answered by the endpoint
to which it is bound. -/
structure Transport (σ : Type) where
  listen : ListenSpec → σ → Reply σ Endpoint
  dial : DialTarget → σ → Reply σ Connection
  stop : σ → Reply σ Unit

end LinkLayer

/-
  LinkLayer.Manager.Basic
  ───────────────────────
  **THE MANAGER OF A NODE'S LINKS.**

  A manager holds what the links of a node share, its transport, its
  listeners, the wires, and the tasks that run in the background.  A task
  makes one link: it dials or is given a connection, and then runs the
  handler to its end.  A listener has an inlet, the queue of connections
  that came in and were not served yet.

  Everything that happens is written down: `requests` are the requests to
  the transport, `events` what can be seen of the links, each in the order
  in which it came.
-/
import LinkLayer.Link.Handler
import LinkLayer.Table
import LinkLayer.Transport.Basic

namespace LinkLayer

/-! ## §1. Tasks. -/

/-- On whose behalf a link is made: a caller who takes the outcome, a call in
the background, or a listener.  The last two put the outcome into the log. -/
inductive Origin where
  | caller
  | call (uri : String)
  | inbound (name : String)
  deriving Repr, DecidableEq

/-- What is reported of the outcome of a task. -/
def Origin.report : Origin → Outcome → List Notice
  | .call uri, .duplicate _ => [.callFoundExisting uri]
  | .inbound name, .duplicate _ => [.inboundFoundExisting name]
  | _, .failed (.tunnel _) => []
  | .call uri, .failed cause => [.callFailed uri cause]
  | .inbound name, .failed cause => [.inboundFailed name cause]
  | _, _ => []

/-- How far a task has come. -/
inductive Activity where
  | calling (target : CallTarget)
  | dialling (target : DialTarget) (options : LinkOptions)
  | handling (handler : Handler)
  | done (outcome : Outcome)

/-- A task in the background. -/
structure Task where
  origin : Origin
  activity : Activity

namespace Task

/-- The outcome of a task that is done. -/
def outcome? (t : Task) : Option Outcome :=
  match t.activity with
  | .done outcome => some outcome
  | _ => none

/-- The handler of a task that has one. -/
def handler? (t : Task) : Option Handler :=
  match t.activity with
  | .handling handler => some handler
  | _ => none

/-- The time at which a task gives up waiting. -/
def due? (t : Task) : Option Nat := t.handler?.bind Handler.due?

end Task

/-! ## §2. Listeners. -/

/-- The queue of a listener.  It is fed by the transport until that ends it,
and served by the manager until the listener is stopped. -/
structure Inlet where
  spec : ListenSpec
  queue : List Connection := []
  isFed : Bool := true
  isServed : Bool := true
  deriving Repr, DecidableEq

/-- A listener that is in force, with the number of its inlet. -/
structure Listener where
  spec : ListenSpec
  bound : Endpoint
  inlet : Nat
  deriving Repr, DecidableEq

/-! ## §3. Managers. -/

/-- The manager of a node over a transport with states in `σ`. -/
structure Manager (σ : Type) extends Node where
  transport : σ
  listeners : List Listener := []
  inlets : Table Inlet := {}
  wires : Table Wire := {}
  tasks : Table Task := {}
  requests : List Request := []
  events : List Event := []

namespace Manager

variable {σ : Type}

/-- A manager without links and listeners. -/
def new (identity : Identity) (settings : Settings) (engine : Engine) (transport : σ) :
    Manager σ :=
  { identity, settings, engine, transport }

/-- Put notices into the log. -/
def report (m : Manager σ) (notices : List Notice) : Manager σ :=
  { m with events := m.events ++ notices.map .notice }

/-- Write down a request, and what the transport made of it. -/
def asked {α : Type} (m : Manager σ) (request : Request) (reply : Reply σ α) : Manager σ :=
  { m.report reply.notices with
    requests := m.requests ++ [request]
    transport := reply.state }

/-- Put a task to work under a number. -/
def spawn (m : Manager σ) (n : Nat) (origin : Origin) (activity : Activity) : Manager σ :=
  { m with tasks := m.tasks.put n ⟨origin, activity⟩ }

/-- Change a wire. -/
def onWire (m : Manager σ) (n : Nat) (f : Wire → Wire) : Manager σ :=
  { m with wires := m.wires.modify n f }

/-- The handler of a connection that is to become a link. -/
def handlerFor (c : Connection) (incoming forced : Bool) (options : LinkOptions) : Handler where
  number := c.wire
  link := ⟨c.name, c.kind, c.source, c.remote, incoming, forced, options⟩

/-- The live links, in the order of their names. -/
def peers (m : Manager σ) : List Handle := m.registry.snapshot

/-- The listeners in force, in the order of their text. -/
def listening (m : Manager σ) : List Listener :=
  m.listeners.mergeSort fun a b => Text.textLE a.spec.text b.spec.text

end Manager

end LinkLayer

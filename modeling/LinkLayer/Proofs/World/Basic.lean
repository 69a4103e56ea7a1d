/-
  LinkLayer.Proofs.World.Basic
  ────────────────────────────
  **ONE NODE AND ALL THAT CAN HAPPEN TO IT.**

  A world is a manager with its surroundings: the connections that were made,
  who has each of them, and a record of what the handlers did.  An `Act` is
  one thing that can happen, to the node or in it:

    • connections are made, run, accepted, dialled, delivered, thrown away,
    • the remote ends write, read, shut down and drop,
    • time passes, settings are replaced, listeners come and go, the node is
      stopped, at one stroke or in the parts that a stop is made of,
    • tasks and listeners make single moves, engines do as they please, and
      tasks are cancelled where they wait.

  `World.act` is total: an act that is impossible changes nothing.  So every
  list of acts is a run, and whatever holds after every list holds for every
  order in which the acts can come.

  A stop is cut into its parts, but to listen is one act, and so is to take
  over settings.  A node is stopped before such an act or after it; no run
  has it stopped between the look at the flag and the entry of the listener
  into the table.

  The manager does all the work.  `place` says who has a connection, so that
  none is used twice; `deeds` writes down the moves of handlers that others
  depend on, in their order.
-/
import LinkLayer.Manager.Lifecycle
import LinkLayer.Transport.Scripted
import Mathlib.Logic.Function.Basic

namespace LinkLayer

/-! ## §1. Where connections are, and what handlers did. -/

/-- Who has a connection. -/
inductive Place where
  | unmade
  /-- The one who made it. -/
  | loose
  /-- The queue of a listener. -/
  | queued (inlet : Nat)
  /-- The handler of a task. -/
  | taken (task : Nat)
  | discarded
  deriving Repr, DecidableEq

/-- What a handler did: it began on a node that was not stopped, received the
peer's frame, asked for its registration, or handed over.  With a
registration goes the link that held the key at that moment. -/
inductive Deed where
  | began (link : Link) (settings : Settings)
  | received (octets : Bytes)
  | asked (entry : Handle) (holder : Option Handle)
  | handedOver (peer : Identity) (metric : UInt8)
  deriving Repr, DecidableEq

namespace Handler

/-- The hand-over that an event stands for. -/
def handOverOf? : Event → Option Deed
  | .handedOver peer metric => some (.handedOver peer metric)
  | .notice _ => none

/-- The deeds in a move of a handler. -/
def deeds (node : Node) (h : Handler) (move : Move) : List Deed :=
  match h.phase with
  | .fresh => if node.isStopped then [] else [.began h.link node.settings]
  | .receiving _ got => if got.length = frameLength then [.received got] else []
  | .validated peer =>
      let entry := h.handle peer.identity
      [.asked entry (node.registry.lookup entry.key)]
  | _ => move.events.filterMap handOverOf?

/-- Whether a handler is between two points at which it can wait. -/
def isBusy (h : Handler) : Bool :=
  match h.phase with
  | .received _ | .validated _ | .registered .. | .leaving .. => true
  | _ => false

end Handler

/-! ## §2. Acts. -/

/-- What a remote end can do.  A write takes as many octets as there is room
for, a read as many as there are. -/
inductive RemoteAct where
  | write (octets : Bytes)
  | read (count : Nat)
  | shutDown
  | drop
  deriving Repr, DecidableEq

/-- Let a remote end act on a wire. -/
def RemoteAct.apply (w : Wire) : RemoteAct → Wire
  | .write bs => ((w.remoteWrite bs).map (·.2)).getD w
  | .read count => { w with outbound := w.outbound.drop count }
  | .shutDown => w.remoteShutdown
  | .drop => w.drop

/-- What an engine can do while it has a connection. -/
inductive EngineAct where
  | read (limit : Nat)
  | write (octets : Bytes)
  | shutDown
  | drop
  | finish (result : Except String Unit)
  | collapse

/-- What comes of an act of an engine. -/
def EngineAct.progress (session : Engine.Session) (wire : Wire) : EngineAct → Engine.Progress
  | .read limit =>
      match wire.read limit with
      | .done (_, wire') => .going session wire'
      | _ => .waiting
  | .write bs =>
      match wire.write bs with
      | .done (_, wire') => .going session wire'
      | _ => .waiting
  | .shutDown =>
      match wire.shutdown with
      | (.wait, _) => .waiting
      | (_, wire') => .going session wire'
  | .drop => .going session wire.drop
  | .finish result => .returned result []
  | .collapse => .collapsed

/-- What can happen to a node whose transport has states in `σ`. -/
inductive Act (σ : Type) where
  /-- A connection is made. -/
  | make (kind : Kind) (name source remote : String) (capacity : Nat) (faults : Faults)
  | discard (n : Nat)
  /-- A link is made of a connection, and its handler is run. -/
  | run (n : Nat) (incoming forced : Bool) (options : LinkOptions)
  | accept (n : Nat) (forced : Bool)
  | connect (target : CallTarget)
  | call (uri : String) (source : Option String)
  | deliver (spec : String) (n : Nat)
  | endInlet (spec : String)
  | remote (n : Nat) (what : RemoteAct)
  | clock (now : Nat)
  | engine (engine : Engine)
  | transport (state : σ)
  | listen (spec : ListenSpec)
  | unlisten (spec : ListenSpec)
  | reconfigure (config : LinkConfig)
  /-- The settings are replaced; the listeners follow later. -/
  | adopt (settings : Settings)
  | stop
  /-- The first part of a stop. -/
  | raiseStop
  /-- The second part of a stop. -/
  | dropListeners
  /-- The third part of a stop. -/
  | stopTransport
  /-- A listener makes its next move. -/
  | inlet (j : Nat)
  /-- A listener makes its next move before it looks at the stop. -/
  | serve (j : Nat)
  /-- A task makes its next move. -/
  | task (t : Nat)
  /-- The engine of a task acts. -/
  | tunnel (t : Nat) (what : EngineAct)
  | cancel (t : Nat)

/-- The connection whose octets the remote end writes or reads in an act. -/
def Act.fed? {σ : Type} : Act σ → Option Nat
  | .remote n (.write _) | .remote n (.read _) => some n
  | _ => none

/-! ## §3. Worlds. -/

/-- A manager and its surroundings.  `next` is the number of the next
connection or task. -/
structure World (σ : Type) where
  manager : Manager σ
  next : Nat := 0
  connection : Nat → Option Connection := fun _ => none
  place : Nat → Place := fun _ => .unmade
  deeds : List (Nat × Deed) := []

namespace World

variable {σ : Type}

/-- A node on which nothing has happened. -/
def start (identity : Identity) (settings : Settings) (engine : Engine) (transport : σ) :
    World σ :=
  { manager := .new identity settings engine transport }

/-- The wire with a number. -/
def wire? (w : World σ) (n : Nat) : Option Wire := w.manager.wires.find? n

/-- The handler that a task runs. -/
def handler? (w : World σ) (t : Nat) : Option Handler :=
  (w.manager.tasks.find? t).bind Task.handler?

/-- The deeds of the handler of one connection, in their order. -/
def deedsOf (w : World σ) (n : Nat) : List Deed :=
  w.deeds.filterMap fun d => if d.1 = n then some d.2 else none

/-- The outcome of the link that was made of a connection, once that is over. -/
def outcome? (w : World σ) (n : Nat) : Option Outcome :=
  match w.place n with
  | .taken t => (w.manager.tasks.find? t).bind fun task =>
      match task.activity with
      | .handling h => h.outcome?
      | .done outcome => some outcome
      | _ => none
  | _ => none

/-- Change the manager alone. -/
def onManager (w : World σ) (f : Manager σ → Manager σ) : World σ :=
  { w with manager := f w.manager }

/-- Give a connection to someone. -/
def give (w : World σ) (n : Nat) (place : Place) : World σ :=
  { w with place := Function.update w.place n place }

/-- Do something with a connection that is still loose. -/
def withLoose (w : World σ) (n : Nat) (f : Connection → World σ) : World σ :=
  match w.place n, w.connection n with
  | .loose, some c => f c
  | _, _ => w

/-! ## §4. Single acts. -/

/-- Make a connection. -/
def make (w : World σ) (kind : Kind) (name source remote : String) (capacity : Nat)
    (faults : Faults) : World σ :=
  { w with
    next := w.next + 1
    connection := Function.update w.connection w.next
      (some ⟨w.next, kind, name, source, remote⟩)
    place := Function.update w.place w.next .loose
    manager := { w.manager with
      wires := w.manager.wires.put w.next (Wire.new capacity faults) } }

/-- Spawn a task under the next number. -/
def spawn (w : World σ) (f : Manager σ → Manager σ) : World σ :=
  { w with next := w.next + 1, manager := f w.manager }

/-- Call a peer; a call that is refused changes nothing. -/
def call (w : World σ) (uri : String) (source : Option String) : World σ :=
  match w.manager.call w.next uri source with
  | (.ok (), m) => w.spawn fun _ => m
  | (.error _, _) => w

/-- Deliver a connection to the listener at a place. -/
def deliver (w : World σ) (spec : String) (c : Connection) : World σ :=
  match w.manager.deliver spec c, w.manager.inlets.rows.reverse.find? (·.2.spec.text = spec) with
  | (.taken, m), some (j, _) => { w with manager := m }.give c.wire (.queued j)
  | (.refused, m), _ => { w with manager := m }.give c.wire .discarded
  | _, _ => w

/-- The connection that a listener would take next. -/
def popped? (w : World σ) (j : Nat) : Option Connection :=
  (w.manager.inlets.find? j).bind fun inlet =>
    if inlet.isServed && !w.manager.isStopped then inlet.queue.head? else none

/-- Let a listener make its next move. -/
def inletMove (w : World σ) (j : Nat) : World σ :=
  match w.manager.stepInlet j with
  | none => w
  | some m =>
      match w.popped? j with
      | none => { w with manager := m }
      | some c => { w with manager := m }.give c.wire (.taken c.wire)

/-- Set the flag of the stop. -/
def flag (w : World σ) (isStopped : Bool) : World σ := w.onManager fun m => { m with isStopped }

/-- Let a listener make its next move without a look at the stop.  Whoever has
both before it, the stop and a connection, may go for the one or the other. -/
def serve (w : World σ) (j : Nat) : World σ :=
  ((w.flag false).inletMove j).flag w.manager.isStopped

/-- The deeds in the next move of a task. -/
def newDeeds (w : World σ) (t : Nat) : List (Nat × Deed) :=
  match w.handler? t with
  | none => []
  | some h =>
      match (w.wire? h.number).bind (h.step w.manager.toNode) with
      | none => []
      | some move => (h.deeds w.manager.toNode move).map (h.number, ·)

/-- The connection that a task would get by its next move, if that is a
dial. -/
def dialled? (T : Transport σ) (w : World σ) (t : Nat) : Option Connection :=
  (w.manager.tasks.find? t).bind fun task =>
    match task.activity with
    | .dialling target _ => (T.dial target w.manager.transport).result.toOption
    | _ => none

/-- Let a task make its next move.  A dial returns a connection that is still
loose. -/
def taskMove (T : Transport σ) (w : World σ) (t : Nat) : World σ :=
  match w.manager.stepTask T t with
  | none => w
  | some m =>
      match w.dialled? T t with
      | none => { w with manager := m, deeds := w.deeds ++ w.newDeeds t }
      | some c => w.withLoose c.wire fun c' =>
          if c' = c then { w with manager := m }.give c.wire (.taken t) else w

/-- Let the engine of a task act. -/
def engineMove (w : World σ) (t : Nat) (what : EngineAct) : World σ :=
  match w.manager.tasks.find? t with
  | some ⟨origin, .handling h⟩ =>
      match h.phase, w.wire? h.number with
      | .tunnelling entry session, some wire =>
          match h.afterEngine w.manager.toNode wire entry (what.progress session wire) with
          | none => w
          | some move => w.onManager (·.applyMove t origin h.number move)
      | _, _ => w
  | _ => w

/-- Cancel a task, if it is at a point where it waits. -/
def cancel (w : World σ) (t : Nat) : World σ :=
  if (w.handler? t).any Handler.isBusy then w else w.onManager (·.cancel t)

/-! ## §5. Runs. -/

/-- Let something happen. -/
def act (T : Transport σ) (w : World σ) : Act σ → World σ
  | .make kind name source remote capacity faults =>
      w.make kind name source remote capacity faults
  | .discard n => w.withLoose n fun _ =>
      (w.onManager (·.onWire n Wire.drop)).give n .discarded
  | .run n incoming forced options => w.withLoose n fun c =>
      (w.onManager (·.run n (Manager.handlerFor c incoming forced options))).give n (.taken n)
  | .accept n forced => w.withLoose n fun c =>
      (w.onManager (·.accept c forced)).give n (.taken n)
  | .connect target => w.spawn (·.connect w.next target)
  | .call uri source => w.call uri source
  | .deliver spec n => w.withLoose n (w.deliver spec)
  | .endInlet spec => w.onManager fun m => (m.endInlet spec).2
  | .remote n what => w.onManager (·.onWire n what.apply)
  | .clock now => w.onManager fun m => { m with now := max m.now now }
  | .engine engine => w.onManager fun m => { m with engine }
  | .transport state => w.onManager fun m => { m with transport := state }
  | .listen spec => w.onManager fun m => (m.listen T spec).2
  | .unlisten spec => w.onManager fun m => (m.unlisten spec).2
  | .reconfigure config => w.onManager fun m => (m.reconfigure T config).2
  | .adopt settings => w.onManager fun m => { m with settings }
  | .stop => w.onManager fun m => (m.stop T).2
  | .raiseStop => w.onManager (·.raiseStop)
  | .dropListeners => if w.manager.isStopped then w.onManager (·.dropListeners) else w
  | .stopTransport =>
      if w.manager.isStopped then w.onManager fun m => (m.stopTransport T).2 else w
  | .inlet j => w.inletMove j
  | .serve j => w.serve j
  | .task t => w.taskMove T t
  | .tunnel t what => w.engineMove t what
  | .cancel t => w.cancel t

/-- Let several things happen, one after the other. -/
def run (T : Transport σ) (w : World σ) (acts : List (Act σ)) : World σ := acts.foldl (act T) w

/-! ## §6. A node that accepts a connection. -/

/-- A node with a scripted transport. -/
def scriptedNode : World Script := start (.replicate 0xaa) {} .collect {}

/-- An incoming connection is accepted. -/
def accepted : List (Act Script) := [.make .tcp "peer" "near" "far" 1024 {}, .accept 0 false]

/-- The handler of the connection begins and sends its frame. -/
def acceptAndSend : List (Act Script) := accepted ++ List.replicate 4 (.task 0)

/-- The remote end sends its frame, and the handler goes on. -/
def answer : List (Act Script) :=
  .remote 0 (.write (Frame.own (.replicate 0xbb) 3).encode) :: List.replicate 5 (.task 0)

end World

end LinkLayer

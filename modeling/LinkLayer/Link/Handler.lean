/-
  LinkLayer.Link.Handler
  ──────────────────────
  **THE LIFE OF A LINK.**

  A handler takes one connection through its life:

      fresh → sending → flushing → receiving → received
            → validated → registered → tunnelling → leaving → ended

  with a way out to `closing` from everywhere before the connection is
  handed to the engine.  Sending and receiving each have the deadline of the
  handshake, closing has one of five seconds.

  `Handler.step` is one move: at most one read or write on the wire, or one
  look at what all links of a node share.  It is `none` while the handler
  has to wait.  The order in which the handlers of a node move is not fixed
  here; whatever it is, the registry decides which of several connections
  with one key is the link.

  The allow-list is the one of the settings at the handler's start.  It is
  asked for inbound connections only, and not for forced ones.
-/
import LinkLayer.Engine
import LinkLayer.Registry
import LinkLayer.Settings

namespace LinkLayer

/-! ## §1. Links and what they share. -/

/-- A connection with its labels, the direction in which it was made, and
what is asked of it. -/
structure Link where
  name : String
  kind : Kind
  source : String
  remote : String
  incoming : Bool
  forced : Bool := false
  options : LinkOptions := {}
  deriving Repr, DecidableEq

/-- The diagnostic text of a link. -/
def Link.debugText (l : Link) (stage : Stage) : String :=
  let q := Text.quote
  s!"Link \x7b name: {q l.name}, kind: {l.kind.debugText}, local: {q l.source}, " ++
    s!"remote: {q l.remote}, incoming: {l.incoming}, force: {l.forced}, " ++
    s!"state: {stage.name} \x7d"

/-- What all links of a node share. -/
structure Node where
  identity : Identity
  settings : Settings
  engine : Engine
  now : Nat := 0
  isStopped : Bool := false
  registry : Registry := {}

/-- What happens in a node, as far as it can be seen from outside: a notice,
or the hand-over of a connection to the engine. -/
inductive Event where
  | notice (n : Notice)
  | handedOver (peer : Identity) (metric : UInt8)
  deriving Repr, DecidableEq

/-! ## §2. Handlers. -/

/-- How a link can end. -/
inductive Outcome where
  /-- It had its life, or the allow-list was against it. -/
  | finished
  /-- Its key was taken. -/
  | duplicate (existing : Handle)
  | failed (cause : LinkError)
  | cancelled
  | collapsed
  deriving Repr, DecidableEq

/-- What a handler is about to do. -/
inductive Phase where
  | fresh
  | sending (due : Nat) (unsent : Bytes)
  | flushing (due : Nat)
  | receiving (due : Nat) (got : Bytes)
  | received (octets : Bytes)
  | validated (peer : Frame)
  | registered (peer : Frame) (entry : Handle)
  | tunnelling (entry : Handle) (session : Engine.Session)
  | leaving (entry : Handle) (result : Except String Unit)
  | closing (due : Nat) (outcome : Outcome)
  | ended (outcome : Outcome)

/-- A link on its way.  The number tells it from all other links of the
node, and is the number of its wire.  `holdsWire` says that the connection
is still the handler's own, `settings` are those of the handler's start. -/
structure Handler where
  number : Nat
  link : Link
  stage : Stage := .created
  holdsWire : Bool := true
  settings : Settings := {}
  phase : Phase := .fresh

namespace Handler

/-- How long an orderly close may take. -/
def closeTimeout : Nat := 5000

/-- The outcome of a handler that has ended. -/
def outcome? (h : Handler) : Option Outcome :=
  match h.phase with
  | .ended outcome => some outcome
  | _ => none

/-- The registry entry that a handler holds. -/
def entry? (h : Handler) : Option Handle :=
  match h.phase with
  | .registered _ entry | .tunnelling entry _ | .leaving entry _ => some entry
  | _ => none

/-- The time at which a handler gives up waiting. -/
def due? (h : Handler) : Option Nat :=
  match h.phase with
  | .sending due _ | .flushing due | .receiving due _ | .closing due _ => some due
  | _ => none

/-- The frame that a handler sends. -/
def ownFrame (node : Node) (h : Handler) : Frame := .own node.identity h.link.options.metric

/-- The handle under which a link registers, once its peer is known. -/
def handle (h : Handler) (peer : Identity) : Handle where
  id := h.number
  name := h.link.name
  key := ⟨peer, h.link.kind, h.link.source, h.link.remote⟩
  incoming := h.link.incoming

/-- The other end of a registered link. -/
def party (entry : Handle) : Party :=
  ⟨entry.key.kind, entry.key.identity, entry.key.remote, entry.key.source⟩

/-! ## §3. Moves. -/

/-- What a move changes: the handler, its wire, the registry.  With it go the
events of the move. -/
structure Move where
  handler : Handler
  wire : Wire
  registry : Registry
  events : List Event := []

/-- A move that changes the handler alone. -/
def goOn (node : Node) (wire : Wire) (h : Handler) (phase : Phase) : Move :=
  ⟨{ h with phase }, wire, node.registry, []⟩

/-- The last act of a handler that does not hand over: its stage becomes the
last one, and what went wrong is reported. -/
def finish (node : Node) (wire : Wire) (h : Handler) (outcome : Outcome)
    (events : List Event) : Move :=
  let report := match outcome with
    | .failed cause => if h.stage = .closed then [] else
        [Event.notice (.closedEarly h.link.name h.stage cause)]
    | _ => []
  ⟨{ h with phase := .ended outcome, stage := .closed, holdsWire := false },
    wire.drop, node.registry, events ++ report⟩

/-- Go to the close of the connection, if there is still one to close. -/
def close (node : Node) (wire : Wire) (h : Handler) (outcome : Outcome)
    (events : List Event) : Move :=
  if h.holdsWire then
    let due := node.now + closeTimeout
    ⟨{ h with phase := .closing due outcome }, wire, node.registry, events⟩
  else h.finish node wire outcome events

/-- Go to the close because of an error. -/
def fail (node : Node) (wire : Wire) (h : Handler) (cause : LinkError)
    (events : List Event := []) : Move :=
  h.close node wire (.failed cause) events

/-- Reach a stage and go on from there. -/
def reach (node : Node) (wire : Wire) (h : Handler) (stage : Stage)
    (next : Handler → Move) : Move :=
  match h.stage.advance stage with
  | .ok stage => next { h with stage }
  | .error e => h.fail node wire (.stateTransition e)

/-- Give up waiting if it is time. -/
def orTimeout (node : Node) (wire : Wire) (h : Handler) (due : Nat) (cause : LinkError) :
    Option Move :=
  if due ≤ node.now then some (h.fail node wire cause) else none

/-- Begin, unless the node was stopped: remember the settings and go to
sending. -/
def begin (node : Node) (wire : Wire) (h : Handler) : Move :=
  if node.isStopped then h.fail node wire .stopped
  else
    let due := node.now + node.settings.handshakeTimeout
    if h.holdsWire then
      goOn node wire { h with settings := node.settings }
        (.sending due (h.ownFrame node).encode)
    else h.fail node wire .stopped

/-- Send what is left of the frame. -/
def send (node : Node) (wire : Wire) (h : Handler) (due : Nat) (unsent : Bytes) : Option Move :=
  if unsent = [] then some (h.goOn node wire (.flushing due))
  else
    match wire.write unsent with
    | .done (rest, wire') => some (h.goOn node wire' (.sending due rest))
    | .failed reason => some (h.fail node wire (.sendFailed reason))
    | .wait => h.orTimeout node wire due .sendTimeout

/-- See the frame off, and go to receiving. -/
def flush (node : Node) (wire : Wire) (h : Handler) (due : Nat) : Option Move :=
  match wire.flush with
  | .done () =>
      some (h.reach node wire .metadataSent fun h =>
        h.goOn node wire (.receiving (node.now + h.settings.handshakeTimeout) []))
  | .failed reason => some (h.fail node wire (.sendFailed reason))
  | .wait => h.orTimeout node wire due .sendTimeout

/-- Receive more of the peer's frame. -/
def receive (node : Node) (wire : Wire) (h : Handler) (due : Nat) (got : Bytes) : Option Move :=
  if got.length = frameLength then
    some (h.reach node wire .metadataReceived fun h => h.goOn node wire (.received got))
  else
    match wire.read (frameLength - got.length) with
    | .done (bs, wire') =>
        if bs = [] then some (h.fail node wire (.recvFailed Wire.earlyEnd))
        else some (h.goOn node wire' (.receiving due (got ++ bs)))
    | .failed reason => some (h.fail node wire (.recvFailed reason))
    | .wait => h.orTimeout node wire due .recvTimeout

/-! ## §4. The decision. -/

/-- What is decided about a peer. -/
inductive Verdict where
  | welcome
  | incompatible
  | notPinned
  | notAllowed
  deriving Repr, DecidableEq

/-- Whether the allow-list has a say. -/
def asksAllowList (l : Link) : Bool := l.incoming && !l.forced

/-- The decision about a peer: its version first, then the pinned keys, then
the allow-list. -/
def verdict (l : Link) (settings : Settings) (peer : Frame) : Verdict :=
  if !peer.isCompatible then .incompatible
  else if !l.options.admits peer.identity then .notPinned
  else if asksAllowList l && !settings.isAllowed peer.identity then .notAllowed
  else .welcome

/-- Decide about the peer. -/
def decide (node : Node) (wire : Wire) (h : Handler) (octets : Bytes) : Move :=
  match Frame.decode octets with
  | .error e => h.fail node wire (.decode e)
  | .ok peer =>
      let l := h.link
      match verdict l h.settings peer with
      | .incompatible =>
          h.fail node wire (.incompatibleVersion Frame.ownVersion peer.version)
            [.notice (.incompatibleVersion l.name Frame.ownVersion peer.version)]
      | .notPinned =>
          h.fail node wire (.pinnedKeyMismatch l.name) [.notice (.pinnedKeyMismatch l.name)]
      | .notAllowed =>
          h.close node wire .finished [.notice (.forbidden l.kind l.remote peer.identity)]
      | .welcome => h.reach node wire .validated fun h => h.goOn node wire (.validated peer)

/-- Ask for the registration; if the key is taken, the connection is
closed. -/
def register (node : Node) (wire : Wire) (h : Handler) (peer : Frame) : Move :=
  match node.registry.register (h.handle peer.identity) with
  | (.duplicate existing, _) =>
      h.close node wire (.duplicate existing) [.notice (.foundExisting h.link.name)]
  | (.inserted, registry) =>
      { h.goOn node wire (.registered peer (h.handle peer.identity)) with
        registry
        events := [.notice (.registered h.link.name)] }

/-! ## §5. Registered links. -/

/-- Take an entry out of the registry and fire its signal. -/
def release (registry : Registry) (entry : Handle) : Registry × List Event :=
  match registry.deregister entry with
  | (true, registry) => (registry, [])
  | (false, registry) => (registry, [.notice (.alreadyDeregistered entry.name)])

/-- End early although registered. -/
def failRegistered (node : Node) (wire : Wire) (h : Handler) (entry : Handle)
    (cause : LinkError) (events : List Event) : Move :=
  let (registry, released) := release node.registry entry
  h.fail { node with registry } wire cause (events ++ released)

/-- Hand the connection over to the engine. -/
def handOver (node : Node) (wire : Wire) (h : Handler) (peer : Frame) (entry : Handle) : Move :=
  match h.stage.advance .registered with
  | .error e => h.failRegistered node wire entry (.stateTransition e) []
  | .ok stage =>
      let h := { h with stage }
      let greeting := Event.notice (.connected (party entry))
      if h.holdsWire then
        let h := { h with holdsWire := false }
        match h.stage.advance .active with
        | .error e => h.failRegistered node wire entry (.stateTransition e) [greeting]
        | .ok stage =>
            let metric := effectiveMetric h.link.options.metric peer.metric
            let session := { engine := node.engine, peer := peer.identity, metric }
            ⟨{ h with stage, phase := .tunnelling entry session }, wire, node.registry,
              [greeting, .handedOver peer.identity metric]⟩
      else h.failRegistered node wire entry .stopped [greeting]

/-- Take over what an engine did.  An engine that collapses takes the handler
with it; the entry is released all the same. -/
def afterEngine (node : Node) (wire : Wire) (h : Handler) (entry : Handle) :
    Engine.Progress → Option Move
  | .waiting => none
  | .going session wire' => some (h.goOn node wire' (.tunnelling entry session))
  | .returned result notices =>
      some { h.goOn node wire.drop (.leaving entry result) with
        events := notices.map .notice }
  | .collapsed =>
      let (registry, released) := release node.registry entry
      some ⟨{ h with phase := .ended .collapsed }, wire.drop, registry, released⟩

/-- Let the engine go on. -/
def tunnel (node : Node) (wire : Wire) (h : Handler) (entry : Handle)
    (session : Engine.Session) : Option Move :=
  h.afterEngine node wire entry (session.step wire)

/-- What an engine's return means for the link. -/
def outcomeOf : Except String Unit → Outcome
  | .ok () => .finished
  | .error reason => .failed (.tunnel reason)

/-- The failure that an engine returned. -/
def failureOf : Except String Unit → Option String
  | .ok () => none
  | .error reason => some reason

/-- Leave the registry after the engine has returned. -/
def leave (node : Node) (wire : Wire) (h : Handler) (entry : Handle)
    (result : Except String Unit) : Move :=
  let farewell := Event.notice (.disconnected (party entry) (failureOf result))
  let (registry, released) := release node.registry entry
  match h.stage.advance .closed with
  | .error e => h.fail { node with registry } wire (.stateTransition e) (farewell :: released)
  | .ok stage =>
      ⟨{ h with stage, phase := .ended (outcomeOf result) }, wire, registry,
        farewell :: released⟩

/-! ## §6. The close, and the step. -/

/-- Close the connection. -/
def shutDown (node : Node) (wire : Wire) (h : Handler) (due : Nat) (outcome : Outcome) :
    Option Move :=
  match wire.shutdown with
  | (.done (), wire') => some (h.finish node wire' outcome [])
  | (.failed reason, wire') => some (h.finish node wire' outcome [.notice (.closeFailed reason)])
  | (.wait, wire') => if due ≤ node.now then some (h.finish node wire' outcome []) else none

/-- The next move of a handler; none while it has to wait or has ended. -/
def step (node : Node) (wire : Wire) (h : Handler) : Option Move :=
  match h.phase with
  | .fresh => some (h.begin node wire)
  | .sending due unsent => h.send node wire due unsent
  | .flushing due => h.flush node wire due
  | .receiving due got => h.receive node wire due got
  | .received octets => some (h.decide node wire octets)
  | .validated peer => some (h.register node wire peer)
  | .registered peer entry => some (h.handOver node wire peer entry)
  | .tunnelling entry session => h.tunnel node wire entry session
  | .leaving entry result => some (h.leave node wire entry result)
  | .closing due outcome => h.shutDown node wire due outcome
  | .ended _ => none

/-- Cancel a handler: the connection is dropped without a close, and an entry
is released. -/
def cancel (node : Node) (wire : Wire) (h : Handler) : Move :=
  match h.outcome? with
  | some _ => ⟨h, wire, node.registry, []⟩
  | none =>
      let (registry, released) := match h.entry? with
        | some entry => release node.registry entry
        | none => (node.registry, [])
      ⟨{ h with phase := .ended .cancelled, holdsWire := false }, wire.drop, registry, released⟩

end Handler

end LinkLayer

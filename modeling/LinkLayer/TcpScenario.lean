/-
  LinkLayer.TcpScenario
  ─────────────────────
  **A TRANSPORT OF THE TCP FAMILY ON A HOST THAT REACHES NOBODY.**

  A scenario is such a transport with the means that an application supplies
  for TLS and SOCKS, the listeners that were started, the dials that are
  under way, and a clock.  The clock moves on by the time that a step has to
  wait: for a dial, for a connection that does not come, for a line that the
  log does not get.

  What is in the background moves only while a step waits.  Until then a
  dial that was started has not begun, a listener that was dropped keeps its
  endpoint, and one whose transport was stopped has not said so.

  Nobody is reached, so no connection ever comes up, and the steps that deal
  with connections find none.
-/
import LinkLayer.Named
import LinkLayer.Scenario.Host
import LinkLayer.Table
import LinkLayer.Text.Basic

namespace LinkLayer

open LinkLayer.Text

/-! ## §1. Means of an application. -/

/-- What an upgrade to TLS does with a connection. -/
inductive TlsHook where
  | pass
  | fail
  | stall
  deriving Repr, DecidableEq

/-- What a way through a proxy does. -/
inductive SocksHook where
  | direct
  | fail
  | stall
  deriving Repr, DecidableEq

/-- What an application supplies. -/
structure Hooks where
  tls : Option TlsHook := none
  socks : Option SocksHook := none
  deriving Repr, DecidableEq

namespace Hooks

/-- Upgrade a connected socket: the client's side fails or is done at
once. -/
def upgrade (hook : TlsHook) (socket : Socket) (_ : String) : Trial Nat :=
  match hook with
  | .fail => .now (.error (.upgrade "bad certificate"))
  | .pass | .stall => .now (.ok socket.wire)

/-- The place to which a direct way leads, whatever the target. -/
def directPlace : String := "127.0.0.1:40000"

/-- Go through a proxy. -/
def through (hook : SocksHook) (_ : Proxy) (_ : String) : Trial Socket :=
  match hook with
  | .direct => Host.connect directPlace none
  | .fail => .now (.error (.io "proxy refused"))
  | .stall => .never

/-- The means that go with what an application supplies. -/
def means (h : Hooks) : Means Host :=
  { Host.machine with upgrade := h.tls.map upgrade, proxy := h.socks.map through }

end Hooks

/-! ## §2. Scenarios. -/

/-- A listener that was started: what was asked for, and where it is. -/
structure StartedListener where
  spec : ListenSpec
  bound : Endpoint
  deriving Repr, DecidableEq

/-- The diagnostic text of a listener. -/
def StartedListener.debugText (l : StartedListener) : String :=
  s!"Listener \x7b spec: ListenSpec \x7b kind: {l.spec.kind.debugText}, " ++
    s!"addr: {l.spec.endpoint.text} \x7d, local_addr: {l.bound.text} \x7d"

/-- A dial that has begun, and what it comes to from then on. -/
structure BegunDial where
  since : Nat
  course : Trial Connection

/-- Whether a dial is over at a time. -/
def BegunDial.isOverAt (d : BegunDial) (now : Nat) : Bool := d.course.isOverBy (now - d.since)

/-- A request that reached a way through a proxy. -/
structure ProxyRequest where
  proxy : Proxy
  target : String
  deriving Repr, DecidableEq

/-- A transport of the TCP family, and what was done with it. -/
structure TcpScenario where
  hooks : Hooks := {}
  transport : Tcp Host := { machine := {} }
  now : Nat := 0
  names : Named Endpoint := {}
  listeners : Named StartedListener := {}
  /-- Whether the listeners have ended. -/
  isSilent : Bool := false
  /-- The dials that can be waited for, by their numbers. -/
  dials : Named Nat := {}
  nextDial : Nat := 0
  /-- The dials that were started and have not begun. -/
  started : List (Nat × DialTarget) := []
  begun : Table BegunDial := {}
  seen : List ProxyRequest := []
  log : List Notice := []

namespace TcpScenario

/-- Take in what the transport answered to a request. -/
def after {α : Type} (s : TcpScenario) (reply : Reply (Tcp Host) α) : TcpScenario :=
  { s with transport := reply.state, log := s.log ++ reply.notices }

/-! ## §3. The background. -/

/-- The request that a dial makes to the way through a proxy. -/
def requestOf (s : TcpScenario) (target : DialTarget) : List ProxyRequest :=
  match target.kind, s.hooks.socks, target.proxy with
  | .socks, some _, some proxy => if s.transport.isStopped then [] else [⟨proxy, target.addr⟩]
  | _, _, _ => []

/-- Begin a dial. -/
def begin (s : TcpScenario) (target : DialTarget) : BegunDial × TcpScenario :=
  (⟨s.now, s.transport.trial s.hooks.means target⟩,
    { s with seen := s.seen ++ s.requestOf target })

/-- Begin a dial that was started under a number. -/
def beginStarted (s : TcpScenario) (dial : Nat × DialTarget) : TcpScenario :=
  let (d, s) := s.begin dial.2
  { s with begun := s.begun.put dial.1 d }

/-- Begin the dials that were started, in their order. -/
def beginAll (s : TcpScenario) : TcpScenario :=
  s.started.foldl beginStarted { s with started := [] }

/-- The endpoints of the listeners. -/
def occupied (s : TcpScenario) : List Endpoint := s.listeners.values.map (·.bound)

/-- Give back the endpoints of the listeners that were dropped. -/
def release (s : TcpScenario) : TcpScenario := { s with transport.machine.listening := s.occupied }

/-- The lines by which listeners end. -/
def farewells (s : TcpScenario) : List Notice :=
  s.listeners.values.map fun l => .acceptingFinished l.spec.kind

/-- End the listeners if the transport is stopped. -/
def endListeners (s : TcpScenario) : TcpScenario :=
  if s.transport.isStopped && !s.isSilent then
    { s with isSilent := true, log := s.log ++ s.farewells }
  else s

/-- Let the background run until nothing can move at this time. -/
def wake (s : TcpScenario) : TcpScenario := s.beginAll.release.endListeners

/-- Wait for some time. -/
def pass (s : TcpScenario) (millis : Nat) : TcpScenario := { s.wake with now := s.now + millis }

/-! ## §4. Steps. -/

/-- What can be done in a scenario. -/
inductive Step where
  | listen (id : String) (spec : ListenSpec)
  | dropListener (id : String)
  | dial (target : DialTarget)
  | startDial (id : String) (target : DialTarget)
  | endDial (id : String)
  | connect (addr : String)
  | accept (listener : String) (millis : Nat)
  | send
  | receive (octets : Nat)
  | close
  | seen
  | stop
  | stopped
  | findInLog (text : String)

/-- What a step answers. -/
inductive Answer where
  | nothing
  | truth (b : Bool)
  | words (text : String)
  | octets (bs : Bytes)
  | listener (l : StartedListener)
  | connection (c : Connection)
  | failed (cause : TransportError)
  | unconnected (reason : String)
  | seen (requests : List ProxyRequest)

/-- The answer that the result of a dial gives. -/
def Answer.ofDial : Except TransportError Connection → Answer
  | .ok c => .connection c
  | .error e => .failed e

/-- Start a listener.  It takes the place of an older one of its name. -/
def listen (s : TcpScenario) (id : String) (spec : ListenSpec) : Answer × TcpScenario :=
  let reply := Tcp.listen s.hooks.means spec s.transport
  let s := s.after reply
  match reply.result with
  | .error e => (.failed e, s)
  | .ok bound =>
      let l : StartedListener := ⟨spec, bound⟩
      (.listener l, { s with names := s.names.put id bound, listeners := s.listeners.put id l })

/-- Start a dial in the background. -/
def startDial (s : TcpScenario) (id : String) (target : DialTarget) : TcpScenario :=
  { s with
    dials := s.dials.put id s.nextDial
    nextDial := s.nextDial + 1
    started := s.started ++ [(s.nextDial, target)] }

/-- Wait for a dial.  One that never ends is not waited for. -/
def await (s : TcpScenario) (d : BegunDial) : Answer × TcpScenario :=
  match d.course with
  | .never => (.nothing, s.wake)
  | .after millis result =>
      (.ofDial result, if d.isOverAt s.now then s else s.pass (d.since + millis - s.now))

/-- Wait for a dial that was started under a name. -/
def endDial (s : TcpScenario) (id : String) : Answer × TcpScenario :=
  match s.dials.find? id with
  | none => (.words "no such dial", s)
  | some n =>
      let s := { s with dials := s.dials.erase id }
      let s := if (s.begun.find? n).isSome then s else s.wake
      match s.begun.find? n with
      | none => (.nothing, s)
      | some d => s.await d

/-- Connect to an address by a socket of its own. -/
def connect (s : TcpScenario) (addr : String) : Answer × TcpScenario :=
  (.unconnected (Host.connectFault addr none).message,
    if (Host.connect addr none).isOverBy 0 then s else s.pass Host.lookupMillis)

/-- Wait for a connection at a listener.  There will be none; a listener ends
with its transport. -/
def accept (s : TcpScenario) (listener : String) (millis : Nat) : Answer × TcpScenario :=
  match s.listeners.find? listener with
  | none => (.words "no such listener", s)
  | some _ =>
      if s.transport.isStopped then (.words "ended", s.wake)
      else (.words "nothing", s.pass millis)

/-- A dial that is under way when the transport stops. -/
def cutAt (now : Nat) (d : BegunDial) : BegunDial :=
  { d with course := Tcp.cutShort (now - d.since) d.course }

/-- Stop the transport. -/
def stop (s : TcpScenario) : TcpScenario :=
  if s.transport.isStopped then s
  else
    let s := s.after s.transport.stop
    { s with begun := ⟨s.begun.rows.map fun row => (row.1, cutAt s.now row.2)⟩ }

/-- How long a line of the log is waited for. -/
def logPatience : Nat := 3000

/-- The first line of the log in which a text occurs. -/
def lineWith (s : TcpScenario) (text : String) : Option String :=
  (s.log.map fun n => n.line.text).find? (occurs text)

/-- Look for a text in the log, and wait for a line with it if there is
none. -/
def findInLog (s : TcpScenario) (text : String) : Answer × TcpScenario :=
  match s.lineWith text with
  | some line => (.words line, s)
  | none =>
      match s.wake.lineWith text with
      | some line => (.words line, s.wake)
      | none => (.nothing, s.pass logPatience)

/-- Do what a step says. -/
def step (s : TcpScenario) : Step → Answer × TcpScenario
  | .listen id spec => s.listen id spec
  | .dropListener id =>
      (.truth (s.listeners.find? id).isSome, { s with listeners := s.listeners.erase id })
  | .dial target =>
      let (d, s) := s.begin target
      s.await d
  | .startDial id target => (.nothing, s.startDial id target)
  | .endDial id => s.endDial id
  | .connect addr => s.connect addr
  | .accept listener millis => s.accept listener millis
  | .send | .close => (.truth false, s)
  | .receive octets => (.octets (List.replicate octets 0), s)
  | .seen => (.seen s.seen, s)
  | .stop => (.nothing, s.stop)
  | .stopped => (.truth s.transport.isStopped, s)
  | .findInLog text => s.findInLog text

end TcpScenario

end LinkLayer

/-
  LinkLayer.Scenario
  ──────────────────
  **A MANAGER AMONG SCRIPTED SURROUNDINGS.**

  A scenario is a manager over a scripted transport, together with what is
  around it: the remote ends of the wires, links that were made and not run
  yet, the runs whose outcome is awaited, and a clock that moves on request
  only.  Remote ends, links and runs have names.

  A step does one thing and then lets everything run until nothing can move.
  `observe` says what came of it: the runs that ended, the lines of the log,
  the hand-overs, the requests to the transport, and the number of links.
-/
import LinkLayer.Manager.Schedule
import LinkLayer.Named
import LinkLayer.Transport.Scripted

namespace LinkLayer

open LinkLayer.Text

/-! ## §1. Scenarios. -/

/-- A connection that a scenario makes. -/
structure Plug where
  id : String
  kind : Kind
  source : String
  remote : String
  name : String
  capacity : Nat
  faults : Faults := {}

/-- A manager and its surroundings. -/
structure Scenario where
  manager : Manager Script
  /-- The number of the next wire or task. -/
  next : Nat := 0
  /-- The wires whose remote ends are at hand. -/
  remotes : Named Nat := {}
  /-- The links that were made and not run. -/
  idle : Named Handler := {}
  /-- The tasks whose outcome is awaited. -/
  runs : Named Nat := {}
  /-- The handles that were registered at the end of some step. -/
  seen : List Handle := []
  /-- For a run that was a duplicate, the link that was there before. -/
  existing : Named Handle := {}

namespace Scenario

/-- The transport of every scenario. -/
def transport : Transport Script := Script.transport

/-- Let everything run until nothing can move. -/
def settle (s : Scenario) : Scenario := { s with manager := s.manager.settle transport }

/-! ## §2. Wires and their remote ends. -/

/-- Drop the remote end with a name; whether there was one. -/
def dropRemote (s : Scenario) (id : String) : Bool × Scenario :=
  match s.remotes.find? id with
  | none => (false, s)
  | some n =>
      (true, { s with
        remotes := s.remotes.erase id
        manager := s.manager.onWire n Wire.drop })

/-- Make a connection; its remote end takes the place of an older one. -/
def plugIn (s : Scenario) (p : Plug) : Connection × Scenario :=
  let s := (s.dropRemote p.id).2
  (⟨s.next, p.kind, p.name, p.source, p.remote⟩,
    { s with
      next := s.next + 1
      remotes := s.remotes.put p.id s.next
      manager := { s.manager with
        wires := s.manager.wires.put s.next (Wire.new p.capacity p.faults) } })

/-- How a write by a remote end went: the number of octets, and whether the
end of it was a closed pipe. -/
structure Written where
  octets : Nat
  broken : Bool := false
  deriving Repr, DecidableEq

/-- Write octets at a remote end for as long as there is room, letting
everything run where there is none. -/
def writeOn (n : Nat) : Nat → Bytes → Nat → Bool → Scenario → Written × Scenario
  | 0, _, count, _, s => (⟨count, false⟩, s)
  | fuel + 1, bs, count, tried, s =>
      if bs = [] then (⟨count, false⟩, s)
      else
        match (s.manager.wires.find? n).bind (·.remoteWrite bs) with
        | none => (⟨count, true⟩, s)
        | some (0, _) =>
            if tried then (⟨count, false⟩, s)
            else writeOn n fuel bs count true s.settle
        | some (k, wire) =>
            writeOn n fuel (bs.drop k) (count + k) false
              { s with manager := s.manager.onWire n fun _ => wire }

/-- Write octets at a remote end. -/
def write (s : Scenario) (n : Nat) (bs : Bytes) : Written × Scenario :=
  writeOn n (2 * bs.length + 2) bs 0 false s

/-- Read at a remote end until no more comes, at most a number of times. -/
def readOn (n : Nat) : Nat → Bytes → Scenario → Bytes × Bool × Scenario
  | 0, got, s => (got, false, s)
  | fuel + 1, got, s =>
      match s.manager.wires.find? n with
      | none => (got, true, s)
      | some wire =>
          let (bs, wire) := wire.remoteRead
          if bs = [] then (got, wire.remoteAtEnd, s)
          else
            readOn n fuel (got ++ bs)
              { s with manager := s.manager.onWire n fun _ => wire }.settle

/-- The octets that can still come to a remote end: those that are queued, in
either direction, and a frame. -/
def readBound (s : Scenario) (n : Nat) : Nat :=
  match s.manager.wires.find? n with
  | none => 0
  | some wire => wire.inbound.queued.length + wire.outbound.queued.length + frameLength

/-- Read all that comes at a remote end: the octets, and whether the end of
file is reached. -/
def read (s : Scenario) (n : Nat) : Bytes × Bool × Scenario :=
  readOn n (s.readBound n + 2) [] s

/-! ## §3. Steps. -/

/-- What can be done in a scenario. -/
inductive Step where
  | create (plug : Plug) (incoming forced : Bool) (options : LinkOptions)
  | run (id : String)
  | drop (id : String)
  | «open» (plug : Plug) (incoming forced : Bool) (options : LinkOptions)
  | accept (plug : Plug) (forced : Bool)
  | queue (plug : Plug)
  | queueError (cause : TransportError)
  | connect (id uri : String) (source : Option String) (timeout : Option Nat)
  | call (uri : String) (source : Option String)
  | write (id : String) (octets : Bytes)
  | read (id : String)
  | close (id : String)
  | halfClose (id : String)
  | abort (id : String)
  | sleep (millis : Nat)
  | engine (engine : Engine)
  | listen (uri : String)
  | unlisten (uri : String)
  | inject (spec : String) (plug : Plug)
  | endListener (spec : String)
  | reconfigure (config : LinkConfig)
  | stop
  | stopped
  | identity
  | settings
  | listening
  | peers
  | dialled
  | pending
  | fired
  | existingFired (id : String)

/-- What a step answers. -/
inductive Answer where
  | nothing
  | truth (b : Bool)
  | words (text : String)
  | list (texts : List String)
  | failed (cause : LinkError)
  | misconfigured (cause : ConfigError)
  | link (link : Link) (stage : Stage) (connection : Connection)
  | written (w : Written)
  | octets (bs : Bytes) (atEnd : Bool)
  | stopState (flag : Bool)
  | settings (settings : Settings)
  | peers (handles : List Handle)
  | targets (targets : List DialTarget)

/-- The answer to a request that succeeds without a value. -/
def Answer.ofResult : Except LinkError Unit → Answer
  | .ok () => .nothing
  | .error e => .failed e

/-- Make a link and keep it. -/
def create (s : Scenario) (p : Plug) (incoming forced : Bool) (options : LinkOptions) :
    Answer × Scenario :=
  let (c, s) := s.plugIn p
  let h := Manager.handlerFor c incoming forced options
  let replaced := (s.idle.find? p.id).map (·.number)
  let manager := match replaced with
    | some n => s.manager.onWire n Wire.drop
    | none => s.manager
  (.link h.link h.stage c, { s with manager, idle := s.idle.put p.id h })

/-- Run a handler, and await its outcome under a name. -/
def spawn (s : Scenario) (id : String) (h : Handler) : Scenario :=
  { s with runs := s.runs.put id h.number, manager := s.manager.run h.number h }

/-- Run the handler of a link that was kept. -/
def runIdle (s : Scenario) (id : String) : Answer × Scenario :=
  match s.idle.find? id with
  | none => (.words "no such link", s)
  | some h => (.nothing, { s with idle := s.idle.erase id }.spawn id h)

/-- Make a link and run its handler at once.  A link of the same name that
was kept is still kept. -/
def «open» (s : Scenario) (p : Plug) (incoming forced : Bool) (options : LinkOptions) :
    Answer × Scenario :=
  let (c, s) := s.plugIn p
  let h := Manager.handlerFor c incoming forced options
  (.link h.link h.stage c, s.spawn p.id h)

/-- Drop a link that was kept. -/
def dropIdle (s : Scenario) (id : String) : Answer × Scenario :=
  match s.idle.find? id with
  | none => (.truth false, s)
  | some h =>
      (.truth true, { s with
        idle := s.idle.erase id
        manager := s.manager.onWire h.number Wire.drop })

/-- Connect to a peer in the background. -/
def connect (s : Scenario) (id uri : String) (source : Option String) (timeout : Option Nat) :
    Answer × Scenario :=
  match CallTarget.parse uri source with
  | .error e => (.failed e, s)
  | .ok target =>
      let dial := { target.dial with timeout := timeout.or target.dial.timeout }
      (.nothing, { s with
        next := s.next + 1
        runs := s.runs.put id s.next
        manager := s.manager.connect s.next { target with dial } })

/-- Call a peer. -/
def call (s : Scenario) (uri : String) (source : Option String) : Answer × Scenario :=
  let (result, manager) := s.manager.call s.next uri source
  (.ofResult result, { s with next := s.next + 1, manager })

/-- Deal with a remote end, if there is one with the name. -/
def withRemote (s : Scenario) (id : String) (f : Nat → Answer × Scenario) : Answer × Scenario :=
  match s.remotes.find? id with
  | none => (.words "no such remote", s)
  | some n => f n

/-- Deal with a place to listen, if a text is one. -/
def withSpec (s : Scenario) (uri : String) (f : ListenSpec → Answer × Scenario) :
    Answer × Scenario :=
  match ListenSpec.parse uri with
  | .error e => (.misconfigured e, s)
  | .ok spec => f spec

/-- Cancel a run. -/
def abort (s : Scenario) (id : String) : Answer × Scenario :=
  match s.runs.find? id with
  | none => (.words "no such task", s)
  | some n => (.nothing, { s with manager := s.manager.cancel n })

/-- Whether the transport keeps as many connections for a listener as it can. -/
def isFull (s : Scenario) (spec : String) : Bool :=
  (s.manager.inlets.rows.reverse.find? (·.2.spec.text = spec)).any fun row =>
    row.2.isFed && Script.backlog ≤ row.2.queue.length

/-- Deliver a connection to a listener, if there is room for it. -/
def inject (s : Scenario) (spec : String) (p : Plug) : Answer × Scenario :=
  let (c, s) := s.plugIn p
  let dropped := s.manager.onWire c.wire Wire.drop
  if s.isFull spec then (.words "refused", { s with manager := dropped })
  else
    match s.manager.deliver spec c with
    | (.taken, manager) => (.words "sent", { s with manager })
    | (.refused, manager) => (.words "refused", { s with manager })
    | (.noListener, _) => (.words "no such listener", { s with manager := dropped })

/-- The targets that the transport was asked to dial. -/
def targets (s : Scenario) : List DialTarget :=
  s.manager.requests.filterMap fun
    | .dial target => some target
    | _ => none

/-- For each handle that was seen, its name and whether its signal fired. -/
def firedTexts (s : Scenario) : List String :=
  sortTexts (s.seen.map fun h => s!"{h.name} {s.manager.registry.isFired h.id}")

/-- Do what a step says; nothing else has moved yet. -/
def act (s : Scenario) : Step → Answer × Scenario
  | .create p incoming forced options => s.create p incoming forced options
  | .run id => s.runIdle id
  | .drop id => s.dropIdle id
  | .open p incoming forced options => s.open p incoming forced options
  | .accept p forced =>
      let (c, s) := s.plugIn p
      (.nothing, { s with
        runs := s.runs.put p.id c.wire, manager := s.manager.accept c forced })
  | .queue p =>
      let (c, s) := s.plugIn p
      (.nothing, { s with
        manager := { s.manager with transport := s.manager.transport.enqueue (.ok c) } })
  | .queueError e =>
      (.nothing, { s with
        manager := { s.manager with transport := s.manager.transport.enqueue (.error e) } })
  | .connect id uri source timeout => s.connect id uri source timeout
  | .call uri source => s.call uri source
  | .write id bs => s.withRemote id fun n =>
      let (w, s) := s.write n bs
      (.written w, s)
  | .read id => s.withRemote id fun n =>
      let (bs, atEnd, s) := s.read n
      (.octets bs atEnd, s)
  | .close id =>
      let (there, s) := s.dropRemote id
      (.truth there, s)
  | .halfClose id => s.withRemote id fun n =>
      (.truth true, { s with manager := s.manager.onWire n Wire.remoteShutdown })
  | .abort id => s.abort id
  | .sleep millis => (.nothing, { s with manager := s.manager.pass transport millis })
  | .engine engine => (.nothing, { s with manager := { s.manager with engine } })
  | .listen uri => s.withSpec uri fun spec =>
      match s.manager.listen transport spec with
      | (.ok bound, manager) => (.words bound.text, { s with manager })
      | (.error e, manager) => (.failed e, { s with manager })
  | .unlisten uri => s.withSpec uri fun spec =>
      let (there, manager) := s.manager.unlisten spec
      (.truth there, { s with manager })
  | .inject spec p => s.inject spec p
  | .endListener spec =>
      let (there, manager) := s.manager.endInlet spec
      (.truth there, { s with manager })
  | .reconfigure config =>
      let (result, manager) := s.manager.reconfigure transport config
      (.ofResult result, { s with manager })
  | .stop =>
      let (result, manager) := s.manager.stop transport
      (.ofResult result, { s with manager })
  | .stopped => (.stopState s.manager.isStopped, s)
  | .identity => (.words s.manager.identity.text, s)
  | .settings => (.settings s.manager.settings, s)
  | .listening =>
      (.list (s.manager.listening.map fun l => s!"{l.spec.text} {l.bound.text}"), s)
  | .peers => (.peers s.manager.peers, s)
  | .dialled => (.targets s.targets, s)
  | .pending => (.list (sortTexts (s.runs.names)), s)
  | .fired => (.list s.firedTexts, s)
  | .existingFired id =>
      match s.existing.find? id with
      | some h => (.truth (s.manager.registry.isFired h.id), s)
      | none => (.nothing, s)

/-! ## §4. Observations. -/

/-- What came of a step, beside its answer. -/
structure Observation where
  ended : List (String × Outcome) := []
  log : List String := []
  handedOver : List (Identity × UInt8) := []
  requests : List Request := []
  live : Nat := 0

/-- The lines that events put into the log. -/
def linesOf (events : List Event) : List String :=
  events.filterMap fun
    | .notice n => some n.line.text
    | _ => none

/-- The hand-overs among some events. -/
def handOversOf (events : List Event) : List (Identity × UInt8) :=
  events.filterMap fun
    | .handedOver peer metric => some (peer, metric)
    | _ => none

/-- The outcome of a run, if it has ended. -/
def outcomeOf (m : Manager Script) (n : Nat) : Option Outcome :=
  (m.tasks.find? n).bind Task.outcome?

/-- The runs that have ended, with their outcomes. -/
def endedRuns (s : Scenario) : List (String × Outcome) :=
  s.runs.rows.filterMap fun run => (outcomeOf s.manager run.2).map (run.1, ·)

/-- The registered handles that were not seen before. -/
def newlySeen (s : Scenario) : List Handle :=
  s.manager.registry.entries.filter fun h => s.seen.all (·.id ≠ h.id)

/-- Take note of what came of a step, given the manager before it. -/
def observe (before : Manager Script) (s : Scenario) : Observation × Scenario :=
  let ended := s.endedRuns
  let events := s.manager.events.drop before.events.length
  let duplicates := ended.filterMap fun
    | (id, .duplicate h) => some (id, h)
    | _ => none
  ({ ended
     log := sortTexts (linesOf events)
     handedOver := handOversOf events
     requests := s.manager.requests.drop before.requests.length
     live := s.manager.registry.count },
   { s with
     runs := s.runs.keep fun n => (outcomeOf s.manager n).isNone
     seen := s.seen ++ s.newlySeen
     existing := ⟨duplicates ++ s.existing.rows⟩ })

/-- Do a step, let everything run, and say what came of it. -/
def step (s : Scenario) (what : Step) : Answer × Observation × Scenario :=
  let (answer, s') := s.act what
  let (seen, s') := observe s.manager s'.settle
  (answer, seen, s')

/-- The name of the link behind a duplicate, if it was seen. -/
def existingName (s : Scenario) (h : Handle) : Option String :=
  (s.seen.find? (·.id = h.id)).map (·.name)

/-! ## §5. The beginning. -/

/-- A scenario around a manager on which nothing has run yet. -/
def ofManager (manager : Manager Script) : Observation × Scenario :=
  let (seen, s) := observe { manager with events := [], requests := [] }
    (Scenario.settle { manager })
  (seen, s)

/-- Start a manager by a configuration. -/
def start (identity : Identity) (config : LinkConfig) (engine : Engine) (script : Script) :
    Except LinkError Unit × Observation × Option Scenario :=
  match Manager.start transport identity config engine script with
  | .error e => (.error e, {}, none)
  | .ok (result, manager) =>
      let (seen, s) := ofManager manager
      (result, seen, result.toOption.map fun _ => s)

/-- Make a manager without listeners. -/
def new (identity : Identity) (settings : Settings) (engine : Engine) (script : Script) :
    Observation × Scenario :=
  ofManager (Manager.new identity settings engine script)

end Scenario

end LinkLayer

/-
  LinkLayer.Scenario.Neighbourhood
  ────────────────────────────────
  **NODES ON ONE HOST.**

  The members of a neighbourhood are bare managers and daemons, by name.
  They share the ports of their host: what one listens at, no other can
  take.  A node whose name is given to another one, or that was stopped, is
  a member no more, but its manager goes on.

  What is in the background moves only while a step waits: for the outcome
  of a connection, for a number of links, for a line of the log.  Until then
  no dial has begun, and no endpoint is given back.  On a host that reaches
  nobody no dial is left pending by such a step, so every outcome is known
  after it.
-/
import LinkLayer.Daemon.Basic
import LinkLayer.Named
import LinkLayer.Scenario.Host
import LinkLayer.Text.Basic

namespace LinkLayer

open LinkLayer.Text

/-! ## §1. Neighbourhoods. -/

/-- A member: the number of its manager, which may be that of a daemon. -/
structure Member where
  manager : Nat
  isDaemon : Bool
  deriving Repr, DecidableEq

/-- A connection that was asked for: the manager and its task, by their
numbers. -/
structure Errand where
  manager : Nat
  task : Nat
  deriving Repr, DecidableEq

/-- The nodes of a host. -/
structure Neighbourhood where
  host : Host := {}
  managers : Table (Daemon Host) := {}
  members : Named Member := {}
  /-- The endpoints that listeners got at the start of their nodes. -/
  names : Named Endpoint := {}
  /-- The connections whose outcome was not asked for yet. -/
  errands : Named Errand := {}
  log : List LogEntry := []

namespace Neighbourhood

/-- Put entries into the log. -/
def report (s : Neighbourhood) (entries : List LogEntry) : Neighbourhood :=
  { s with log := s.log ++ entries }

/-- Let a number stand for a manager, and take in what it reports. -/
def keep (s : Neighbourhood) (n : Nat) (m : Daemon Host) : Neighbourhood :=
  let (log, m) := Daemon.drained m
  { s.report log with host := m.transport.machine, managers := s.managers.put n m }

/-- A manager on the host as it is now. -/
def manager? (s : Neighbourhood) (n : Nat) : Option (Daemon Host) :=
  (s.managers.find? n).map fun m => { m with transport.machine := s.host }

/-! ## §2. The background. -/

/-- Let a manager run until it has nothing to do. -/
def work (s : Neighbourhood) (n : Nat) : Neighbourhood :=
  match s.manager? n with
  | none => s
  | some m => s.keep n (m.settled Host.machine)

/-- Where the managers listen. -/
def occupied (s : Neighbourhood) : List Endpoint :=
  s.managers.values.flatMap fun m => m.listeners.map (·.bound)

/-- Give back the endpoints at which nobody listens any more. -/
def release (s : Neighbourhood) : Neighbourhood := { s with host.listening := s.occupied }

/-- Let everything run until nothing can move. -/
def wake (s : Neighbourhood) : Neighbourhood := (s.managers.numbers.foldl work s).release

/-! ## §3. Members. -/

/-- The names of a node's listeners: the node's own, and from the second one
on with a number. -/
def listenerNames (name : String) (count : Nat) : List String :=
  (List.range count).map fun k => if k = 0 then name else s!"{name}{k}"

/-- Name the listeners of a new node. -/
def nameListeners (s : Neighbourhood) (name : String) (m : Daemon Host) : Neighbourhood :=
  let found := m.listening.map (·.bound)
  { s with
    names := ((listenerNames name found.length).zip found).foldl
      (fun names entry => names.put entry.1 entry.2) s.names }

/-- Take in a new node. -/
def enrol (s : Neighbourhood) (name : String) (isDaemon : Bool) (m : Daemon Host) :
    Neighbourhood :=
  let n := s.managers.rows.length
  { (s.keep n m).nameListeners name m with members := s.members.put name ⟨n, isDaemon⟩ }

/-- Take in what became of the start of a node. -/
def launched {ε : Type} (s : Neighbourhood) (name : String) (isDaemon : Bool)
    (launch : Daemon.Launch Host ε) : Neighbourhood :=
  let s := { s.report launch.log with host := launch.state }
  match launch.result with
  | .error _ => s
  | .ok m => s.enrol name isDaemon m

/-! ## §4. Steps. -/

/-- What can be done in a neighbourhood. -/
inductive Step where
  | startLinks (id : String) (identity : Identity) (config : LinkConfig)
  | startDaemon (id : String) (config : NodeConfig) (source : Option String)
      (fresh : PrivateKey)
  | report (node : String)
  | stop (node : String)
  | connect (id node uri : String) (source : Option String)
  | call (node uri : String) (source : Option String)
  | count (node : String) (wanted : Nat)
  | peers (node : String)
  | reconfigure (node : String) (config : LinkConfig)
  | listening (node : String)
  | outcome (id : String)
  | abort (id : String)
  | findInLog (text : String)

/-- What a step answers. -/
inductive Answer where
  | nothing
  | truth (b : Bool)
  | number (n : Nat)
  | words (text : String)
  | started (identity : Option Identity) (listening : List Listener)
  | peers (handles : List Handle)
  | outcome (o : Outcome)
  /-- A duplicate, and whether the link that was there before has ended. -/
  | duplicate (isOver : Bool)
  | failed (cause : LinkError)
  | notStarted (cause : NodeError)

/-- The answer to a request that succeeds without a value. -/
def Answer.ofResult : Except LinkError Unit → Answer
  | .ok () => .nothing
  | .error e => .failed e

/-- Start a bare manager. -/
def startLinks (s : Neighbourhood) (id : String) (identity : Identity) (config : LinkConfig) :
    Answer × Neighbourhood :=
  let launch := Daemon.startLinks Host.machine identity config s.host
  let answer := match launch.result with
    | .error e => .failed e
    | .ok m => .started (some identity) m.listening
  (answer, s.launched id false launch)

/-- Start a daemon.  An identity that is temporary is not told. -/
def startDaemon (s : Neighbourhood) (id : String) (config : NodeConfig) (source : Option String)
    (fresh : PrivateKey) : Answer × Neighbourhood :=
  let launch := Daemon.start Host.machine config source fresh s.host
  let answer := match launch.result with
    | .error e => .notStarted e
    | .ok m => .started (config.privateKey.map fun _ => m.identity) m.listening
  (answer, s.launched id true launch)

/-- Deal with a member and its manager, if there is one with the name. -/
def withMember (s : Neighbourhood) (node : String)
    (f : Member → Daemon Host → Answer × Neighbourhood) : Answer × Neighbourhood :=
  match s.members.find? node with
  | none => (.words "no such node", s)
  | some member =>
      match s.manager? member.manager with
      | none => (.words "no such node", s)
      | some m => f member m

/-- Report the links of a daemon. -/
def reportLinks (s : Neighbourhood) (node : String) : Answer × Neighbourhood :=
  match s.members.find? node with
  | some ⟨n, true⟩ =>
      (.nothing, s.report (((s.manager? n).map Daemon.report).getD []))
  | _ => (.words "not a node", s)

/-- Stop a node and forget it. -/
def stop (s : Neighbourhood) (node : String) : Answer × Neighbourhood :=
  s.withMember node fun member m =>
    let (log, _, m) := m.halt Host.machine
    (.truth m.isStopped,
      { (s.report log).keep member.manager m with members := s.members.erase node })

/-- Connect to a peer in the background. -/
def connect (s : Neighbourhood) (id node uri : String) (source : Option String) :
    Answer × Neighbourhood :=
  s.withMember node fun member m =>
    match CallTarget.parse uri source with
    | .error e => (.failed e, s)
    | .ok target =>
        let task := m.nextTask
        (.nothing,
          { s.keep member.manager (m.connect task target) with
            errands := s.errands.put id ⟨member.manager, task⟩ })

/-- Call a peer in the background. -/
def call (s : Neighbourhood) (node uri : String) (source : Option String) :
    Answer × Neighbourhood :=
  s.withMember node fun member m =>
    let (result, m) := Daemon.call m uri source
    (.ofResult result, s.keep member.manager m)

/-- Apply a configuration. -/
def reconfigure (s : Neighbourhood) (node : String) (config : LinkConfig) :
    Answer × Neighbourhood :=
  s.withMember node fun member m =>
    let (result, m) := m.reconfigure (Daemon.plainTcp Host.machine) config
    (.ofResult result, s.keep member.manager m)

/-- Wait for a number of links; the result is how many there are then. -/
def count (s : Neighbourhood) (node : String) (wanted : Nat) : Answer × Neighbourhood :=
  s.withMember node fun member m =>
    if m.registry.count = wanted then (.number wanted, s)
    else
      let s := s.wake
      (.number (((s.manager? member.manager).map (·.registry.count)).getD 0), s)

/-- Cancel a connection. -/
def abort (s : Neighbourhood) (id : String) : Neighbourhood :=
  match s.errands.find? id with
  | none => s
  | some e =>
      match s.manager? e.manager with
      | none => s
      | some m => s.keep e.manager (m.cancel e.task)

/-- The outcome of a connection, if it is known. -/
def outcome? (s : Neighbourhood) (e : Errand) : Option Outcome :=
  (s.managers.find? e.manager).bind fun m => (m.tasks.find? e.task).bind Task.outcome?

/-- The answer that an outcome gives. -/
def answerOf (s : Neighbourhood) (e : Errand) : Option Outcome → Answer
  | none => .outcome .cancelled
  | some (.duplicate h) =>
      .duplicate (((s.managers.find? e.manager).map fun m => m.registry.isFired h.id).getD false)
  | some o => .outcome o

/-- Wait for the outcome of a connection, once. -/
def await (s : Neighbourhood) (id : String) : Answer × Neighbourhood :=
  match s.errands.find? id with
  | none => (.words "no such task", s)
  | some e =>
      let s := { s with errands := s.errands.erase id }
      let s := if (s.outcome? e).isSome then s else s.wake
      (s.answerOf e (s.outcome? e), s)

/-- The first line of the log in which a text occurs. -/
def lineWith (s : Neighbourhood) (text : String) : Option String :=
  (LogEntry.texts s.log).find? (occurs text)

/-- Look for a text in the log, and wait for a line with it if there is
none. -/
def findInLog (s : Neighbourhood) (text : String) : Answer × Neighbourhood :=
  match s.lineWith text with
  | some line => (.words line, s)
  | none =>
      let s := s.wake
      (((s.lineWith text).map Answer.words).getD .nothing, s)

/-- Do what a step says. -/
def step (s : Neighbourhood) : Step → Answer × Neighbourhood
  | .startLinks id identity config => s.startLinks id identity config
  | .startDaemon id config source fresh => s.startDaemon id config source fresh
  | .report node => s.reportLinks node
  | .stop node => s.stop node
  | .connect id node uri source => s.connect id node uri source
  | .call node uri source => s.call node uri source
  | .count node wanted => s.count node wanted
  | .peers node => s.withMember node fun _ m => (.peers m.peers, s)
  | .reconfigure node config => s.reconfigure node config
  | .listening node => s.withMember node fun _ m => (.number m.listening.length, s)
  | .outcome id => s.await id
  | .abort id => (.nothing, s.abort id)
  | .findInLog text => s.findInLog text

end Neighbourhood

end LinkLayer

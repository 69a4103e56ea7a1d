/-
  LinkLayer.Daemon.Basic
  ──────────────────────
  **DAEMONS.**

  A daemon is a manager over plain TCP whose engine drains the links, on a
  machine that lets it listen and connects it.  It is started by a
  configuration: its identity comes from the private key, or from a temporary
  one; its listeners start, all of them or none; then its peers are called.
  A peer that cannot be called does not hinder the start.

  What happens is returned as entries of the log, in order.
-/
import LinkLayer.Daemon.Notice
import LinkLayer.Manager.Schedule
import LinkLayer.Transport.Tcp

namespace LinkLayer

/-- A manager over plain TCP, on a machine with states in `η`. -/
abbrev Daemon (η : Type) := Manager (Tcp η)

namespace Daemon

variable {η : Type}

/-- The transport of a daemon: the machine, and no means of an application. -/
def plainTcp (machine : Machine η) : Transport (Tcp η) := Tcp.transport { machine with }

/-- Take the events of the link layer out, as entries of the log. -/
def drained (m : Daemon η) : List LogEntry × Daemon η :=
  (m.events.filterMap fun
    | .notice n => some (.links n)
    | .handedOver .. => none,
   { m with events := [] })

/-- Let everything run until nothing can move. -/
def settled (machine : Machine η) (m : Daemon η) : Daemon η := m.settle (plainTcp machine)

/-- A number for the next task. -/
def nextTask (m : Daemon η) : Nat := m.tasks.rows.length

/-! ## §1. The start. -/

/-- How an attempt to start ends: the log, the machine as it is then, and the
daemon unless there was a failure.  A listener that started before another
one failed may still have its endpoint. -/
structure Launch (η ε : Type) where
  log : List LogEntry
  state : η
  result : Except ε (Daemon η)

/-- Start a manager over plain TCP by its configuration. -/
def startLinks (machine : Machine η) (identity : Identity) (config : LinkConfig) (state : η) :
    Launch η LinkError :=
  match Manager.start (plainTcp machine) identity config .drain { machine := state } with
  | .error e => ⟨[], state, .error e⟩
  | .ok (result, m) =>
      let (log, m) := drained m
      ⟨log, m.transport.machine, result.map fun _ => m⟩

/-- Call a peer in the background. -/
def call (m : Daemon η) (uri : String) (source : Option String) :
    Except LinkError Unit × Daemon η :=
  Manager.call m m.nextTask uri source

/-- Call peers in their order; those that cannot be called are reported. -/
def callAll (source : Option String) : Daemon η → List String → List LogEntry × Daemon η
  | m, [] => ([], m)
  | m, uri :: rest =>
      match m.call uri source with
      | (.ok (), m) => callAll source m rest
      | (.error e, m) =>
          let (log, m) := callAll source m rest
          (.daemon (.peerRefused uri e) :: log, m)

/-- What a daemon says of its key. -/
def greeting (key : Option PrivateKey) (identity : Identity) : List LogEntry :=
  (if key.isNone then [.daemon .temporaryKey] else []) ++
    [.daemon (.publicKey identity), .daemon (.address identity)]

/-- Start a daemon.  A `fresh` key is used if none is configured. -/
def start (machine : Machine η) (config : NodeConfig) (source : Option String)
    (fresh : PrivateKey) (state : η) : Launch η NodeError :=
  match config.signingKey with
  | .error e => ⟨[], state, .error e⟩
  | .ok key =>
      let identity := (key.getD fresh).identity .ed25519
      let hello := greeting key identity
      match startLinks machine identity config.link state with
      | ⟨log, state, .error e⟩ => ⟨hello ++ log, state, .error (.link e)⟩
      | ⟨log, state, .ok m⟩ =>
          let (refusals, m) := callAll source m config.link.peers
          ⟨hello ++ log ++ refusals, state, .ok m⟩

/-! ## §2. The run. -/

/-- Let everything run, and see what was reported. -/
def work (machine : Machine η) (m : Daemon η) : List LogEntry × Daemon η :=
  (m.settled machine).drained

/-- Report the live links. -/
def report (m : Daemon η) : List LogEntry :=
  .daemon (.linkCount m.peers.length) :: m.peers.map fun h => .daemon (.liveLink h)

/-- Stop a daemon. -/
def halt (machine : Machine η) (m : Daemon η) :
    List LogEntry × Except LinkError Unit × Daemon η :=
  let (result, m) := Manager.stop (plainTcp machine) m
  let (log, m) := drained m
  (log, result, m)

end Daemon

end LinkLayer

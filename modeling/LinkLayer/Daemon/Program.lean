/-
  LinkLayer.Daemon.Program
  ────────────────────────
  **THE PROGRAM.**

  `outset` is what the program does by itself, on a machine and with what it
  finds in the file that it reads: it makes a key, or fails, or starts a
  daemon.  A daemon runs until it is interrupted; `ending` is what
  it does then, together with all that came before.

  The configuration is checked twice, as a file and with the options of the
  command line; either failure is the program's error.  A daemon that does
  not start is reported in the log instead.
-/
import LinkLayer.CommandLine
import LinkLayer.Daemon.Basic

namespace LinkLayer.Program

/-! ## §1. The outset. -/

variable {η : Type}

/-- How far the program comes by itself. -/
inductive Outset (η : Type) where
  | keyMade (key : PrivateKey)
  | failed (log : List LogEntry) (cause : NodeError)
  | notStarted (log : List LogEntry)
  | running (log : List LogEntry) (daemon : Daemon η)

/-- The lines in which a new key is printed. -/
def keyLines (key : PrivateKey) : List String :=
  [s!"private_key = \"{key.encode .ed25519}\"", s!"# public key: {(key.identity .ed25519).text}"]

/-- The configuration that a command line asks for, given what reading a file
comes to. -/
def configOf (path : Option String) (content : String → Except String String) :
    DaemonNotice × Except NodeError NodeConfig :=
  match path with
  | none => (.defaults, .ok {})
  | some path => (.loading path, NodeConfig.load path (content path))

/-- Start a daemon by a configuration that was checked. -/
def launch (machine : Machine η) (log : List LogEntry) (config : NodeConfig)
    (source : Option String) (fresh : PrivateKey) (state : η) : Outset η :=
  let launch := Daemon.start machine config source fresh state
  match launch.result with
  | .ok daemon => .running (log ++ launch.log) daemon
  | .error e => .notStarted (log ++ launch.log ++ [.daemon (.startFailed e)])

/-- Run a node with the options of the command line. -/
def run (machine : Machine η) (path : Option String) (listen peers : List String)
    (source : Option String) (content : String → Except String String) (fresh : PrivateKey)
    (state : η) : Outset η :=
  match configOf path content with
  | (notice, .error e) => .failed [.daemon notice] e
  | (notice, .ok config) =>
      let config := config.withOverrides listen peers
      match config.validate with
      | .error e => .failed [.daemon notice] e
      | .ok () => launch machine [.daemon notice] config source fresh state

/-- Carry out a command line, with a fresh key at hand. -/
def outset (machine : Machine η) (c : CommandLine) (content : String → Except String String)
    (fresh : PrivateKey) (state : η) : Outset η :=
  match c.command with
  | .genkey => .keyMade fresh
  | .run listen peers source =>
      run machine c.config listen peers source content fresh state

/-! ## §2. The ending. -/

/-- How the program ends. -/
structure Ending where
  exitCode : Nat
  interrupted : Bool := false
  failure : Option NodeError := none
  log : List LogEntry := []

/-- What an interrupted daemon still reports. -/
def farewell (machine : Machine η) (daemon : Daemon η) : List LogEntry :=
  let (stopping, _, _) := daemon.halt machine
  .daemon .shuttingDown :: daemon.report ++ stopping

/-- How the program ends, if a daemon is interrupted once it has nothing left
to do. -/
def ending (machine : Machine η) : Outset η → Ending
  | .keyMade _ => { exitCode := 0 }
  | .failed log cause => { exitCode := 1, failure := some cause, log }
  | .notStarted log => { exitCode := 1, log }
  | .running log daemon =>
      let (work, daemon) := daemon.work machine
      { exitCode := 0, interrupted := true, log := log ++ work ++ farewell machine daemon }

end LinkLayer.Program

/-
  LinkLayer.Manager.Lifecycle
  ───────────────────────────
  **LISTENERS, SETTINGS, AND THE STOP.**

    • `listen` asks the transport only for places that are not listened at.
    • `reconfigure` takes over the new settings, stops the listeners that are
      no longer wanted, and starts the new ones in their order; the first
      failure is the result, but the others are tried all the same.
    • `start` starts the listeners of a configuration, all of them or none.
    • `stop` is final, and does nothing the second time.

  None of them touches a link that is under way.

  Each of them is one step, and nothing else moves before it has ended.  Only
  the stop is there in its parts as well (`raiseStop`, `dropListeners`,
  `stopTransport`), with room for others between them.  A `listen`, by itself
  or in a `reconfigure`, therefore never meets a stop that is raised between
  its look at the flag and the entry of its listener into the table.  Such a
  stop may be over before the entry is made, and the listener would be left
  on a node that is stopped.
-/
import LinkLayer.Manager.Links

namespace LinkLayer.Manager

variable {σ : Type}

/-! ## §1. Listeners. -/

/-- The listener at a place. -/
def listenerAt (m : Manager σ) (spec : ListenSpec) : Option Listener :=
  m.listeners.find? (·.spec = spec)

/-- The number of the next inlet. -/
def nextInlet (m : Manager σ) : Nat := m.inlets.rows.length

/-- Take a new listener into the table, and open its inlet. -/
def addListener (m : Manager σ) (spec : ListenSpec) (bound : Endpoint) : Manager σ :=
  { m with
    listeners := m.listeners ++ [⟨spec, bound, m.nextInlet⟩]
    inlets := m.inlets.put m.nextInlet { spec } }

/-- Listen at a place; the result is the endpoint. -/
def listen (T : Transport σ) (m : Manager σ) (spec : ListenSpec) :
    Except LinkError Endpoint × Manager σ :=
  if m.isStopped then (.error .stopped, m)
  else
    match m.listenerAt spec with
    | some listener => (.ok listener.bound, m)
    | none =>
        let reply := T.listen spec m.transport
        let m := m.asked (.listen spec) reply
        match reply.result with
        | .error e => (.error (.transport e), m)
        | .ok bound => (.ok bound, m.addListener spec bound)

/-- Stop to listen at a place; whether there was a listener.  Links that came
in there stay. -/
def unlisten (m : Manager σ) (spec : ListenSpec) : Bool × Manager σ :=
  match m.listenerAt spec with
  | none => (false, m)
  | some listener =>
      let m := { m with listeners := m.listeners.filter (·.spec ≠ spec) }
      (true, (m.closeInlet listener.inlet).report [.listenerStopped spec listener.bound])

/-! ## §2. Settings. -/

/-- Stop several listeners. -/
def unlistenAll (m : Manager σ) (specs : List ListenSpec) : Manager σ :=
  specs.foldl (fun m spec => (m.unlisten spec).2) m

/-- Start several listeners in their order; the errors come in that order
too. -/
def listenAll (T : Transport σ) (m : Manager σ) : List ListenSpec → List LinkError × Manager σ
  | [] => ([], m)
  | spec :: specs =>
      match m.listen T spec with
      | (.ok _, m) => m.listenAll T specs
      | (.error e, m) =>
          let (errors, m) := (m.report [.listenerFailed spec e]).listenAll T specs
          (e :: errors, m)

/-- Apply a configuration.  Links under way keep the settings with which they
began. -/
def reconfigure (T : Transport σ) (m : Manager σ) (config : LinkConfig) :
    Except LinkError Unit × Manager σ :=
  match config.settings with
  | .error e => (.error (.config e), m)
  | .ok settings =>
      let current := m.listeners.map (·.spec)
      let m := { m with settings }
      let m := m.unlistenAll (current.filter (· ∉ settings.listen))
      match m.listenAll T (settings.listen.filter (· ∉ current)) with
      | ([], m) => (.ok (), m)
      | (e :: _, m) => (.error e, m)

/-! ## §3. The stop. -/

/-- Let the node be stopped, for everyone to see. -/
def raiseStop (m : Manager σ) : Manager σ := { m with isStopped := true }

/-- Stop all listeners, without a word. -/
def dropListeners (m : Manager σ) : Manager σ :=
  m.listeners.foldl (fun m listener => m.closeInlet listener.inlet) { m with listeners := [] }

/-- Stop the transport. -/
def stopTransport (T : Transport σ) (m : Manager σ) : Except LinkError Unit × Manager σ :=
  let reply := T.stop m.transport
  let m := m.asked .stop reply
  match reply.result with
  | .error e => (.error (.transport e), m)
  | .ok () => (.ok (), m.report [.stopped])

/-- Stop the node: raise the flag, stop the listeners, then the transport. -/
def stop (T : Transport σ) (m : Manager σ) : Except LinkError Unit × Manager σ :=
  if m.isStopped then (.ok (), m) else m.raiseStop.dropListeners.stopTransport T

/-! ## §4. The start. -/

/-- Start listeners in their order.  The first that fails stops the node and
is the result. -/
def startListeners (T : Transport σ) (m : Manager σ) :
    List ListenSpec → Except LinkError Unit × Manager σ
  | [] => (.ok (), m)
  | spec :: specs =>
      match m.listen T spec with
      | (.ok _, m) => m.startListeners T specs
      | (.error e, m) =>
          match (m.report [.listenerFailed spec e]).stop T with
          | (.ok (), m) => (.error e, m)
          | (.error stopError, m) => (.error e, m.report [.stopFailed stopError])

/-- Start a node by its configuration.  If the configuration is bad, there is
no node; otherwise the node is returned also where a listener failed, stopped
then. -/
def start (T : Transport σ) (identity : Identity) (config : LinkConfig) (engine : Engine)
    (transport : σ) : Except LinkError (Except LinkError Unit × Manager σ) :=
  match config.settings with
  | .error e => .error (.config e)
  | .ok settings => .ok ((new identity settings engine transport).startListeners T settings.listen)

end LinkLayer.Manager

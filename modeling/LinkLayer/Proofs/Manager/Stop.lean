/-
  LinkLayer.Proofs.Manager.Stop
  ─────────────────────────────
  **WHAT A STOP DOES TO A MANAGER, AND WHAT A STOPPED ONE REFUSES.**

  A stop has three parts: the flag is raised, the listeners are dropped, the
  transport is asked to stop.  Only the last one is a request, and its answer
  is the result.

    • `stop_of_running` — the first stop, as a whole,
    • `stop_of_stopped`, `listen_of_stopped`, `call_of_stopped`,
      `reconfigure_of_stopped` — **whatever is asked of a stopped node is
      answered by the flag**, and the transport does not hear of it.
-/
import LinkLayer.Proofs.Manager.Inlets

namespace LinkLayer

variable {σ : Type}

/-- What a stop returns by what the transport answers. -/
def Transport.farewell (T : Transport σ) (state : σ) : Except LinkError Unit :=
  match (T.stop state).result with
  | .error e => .error (.transport e)
  | .ok () => .ok ()

namespace Manager

variable {m m' : Manager σ}

/-! ## §1. The parts of a stop. -/

/-- Whoever closes a queue asks nothing of the transport, and the node stays
what it is. -/
structure Silent (m m' : Manager σ) : Prop where
  toNode : m'.toNode = m.toNode
  transport : m'.transport = m.transport
  requests : m'.requests = m.requests

theorem Silent.trans {m'' : Manager σ} (h : m.Silent m') (h' : m'.Silent m'') : m.Silent m'' :=
  ⟨h'.toNode.trans h.toNode, h'.transport.trans h.transport, h'.requests.trans h.requests⟩

theorem silent_closeInlet (m : Manager σ) (j : Nat) : m.Silent (m.closeInlet j) := by
  cases hj : m.inlets.find? j with
  | none =>
      rw [closeInlet_of_none hj]
      exact ⟨rfl, rfl, rfl⟩
  | some inlet =>
      rw [closeInlet_of_some hj]
      exact ⟨rfl, rfl, rfl⟩

theorem silent_dropListeners (m : Manager σ) : m.Silent m.dropListeners := by
  have hfold : ∀ (ls : List Listener) (m₀ : Manager σ),
      m₀.Silent (ls.foldl (fun m listener => m.closeInlet listener.inlet) m₀) := by
    intro ls
    induction ls with
    | nil => exact fun _ => ⟨rfl, rfl, rfl⟩
    | cons l rest ih => exact fun m₀ => (silent_closeInlet m₀ l.inlet).trans (ih _)
  have hnone : m.Silent { m with listeners := [] } := ⟨rfl, rfl, rfl⟩
  exact hnone.trans (hfold _ _)

/-- What the last part of a stop does. -/
theorem stopTransport_eq (T : Transport σ) (m : Manager σ) :
    (m.stopTransport T).1 = T.farewell m.transport ∧
    (m.stopTransport T).2.toNode = m.toNode ∧
    (m.stopTransport T).2.requests = m.requests ++ [.stop] ∧
    (m.stopTransport T).2.listeners = m.listeners := by
  unfold stopTransport Transport.farewell
  dsimp only
  cases (T.stop m.transport).result with
  | error e => exact ⟨rfl, rfl, rfl, rfl⟩
  | ok => exact ⟨rfl, rfl, rfl, rfl⟩

/-! ## §2. The stop as a whole. -/

/-- A node was stopped: the transport heard of it once, its answer is the
result, and there is no listener any more. -/
structure Stops (T : Transport σ) (m : Manager σ)
    (answer : Except LinkError Unit × Manager σ) : Prop where
  result : answer.1 = T.farewell m.transport
  toNode : answer.2.toNode = { m.toNode with isStopped := true }
  requests : answer.2.requests = m.requests ++ [.stop]
  listeners : answer.2.listeners = []

/-- **The first stop.** -/
theorem stop_of_running (T : Transport σ) (hs : m.isStopped = false) :
    m.Stops T (m.stop T) := by
  have hdrop := silent_dropListeners m.raiseStop
  obtain ⟨hresult, hnode, hrequests, hlisteners⟩ := stopTransport_eq T m.raiseStop.dropListeners
  unfold stop
  rw [if_neg (by simp [hs])]
  constructor
  case result => rw [hresult, hdrop.transport]; rfl
  case toNode => rw [hnode, hdrop.toNode]; rfl
  case requests => rw [hrequests, hdrop.requests]; rfl
  case listeners => rw [hlisteners, listeners_dropListeners]

/-- **Every later stop does nothing, and succeeds.** -/
theorem stop_of_stopped (T : Transport σ) (hs : m.isStopped = true) :
    m.stop T = (.ok (), m) := by
  unfold stop
  rw [if_pos hs]

/-! ## §3. Requests to a stopped node. -/

theorem listen_of_stopped (T : Transport σ) (hs : m.isStopped = true) (spec : ListenSpec) :
    m.listen T spec = (.error .stopped, m) := by
  unfold listen
  rw [if_pos hs]

/-- A call is refused for its own text first, and for the stop then. -/
theorem call_of_stopped (hs : m.isStopped = true) (n : Nat) (uri : String)
    (source : Option String) :
    m.call n uri source =
      match CallTarget.parse uri source with
      | .error e => (.error e, m)
      | .ok _ => (.error .stopped, m) := by
  unfold call
  cases CallTarget.parse uri source with
  | error e => rfl
  | ok target => exact if_pos hs

/-- Of several listeners, a stopped node starts none. -/
theorem silent_listenAll (T : Transport σ) (specs : List ListenSpec)
    (hs : m.isStopped = true) :
    m.Silent (m.listenAll T specs).2 ∧ (m.listenAll T specs).2.listeners = m.listeners := by
  induction specs generalizing m with
  | nil => exact ⟨⟨rfl, rfl, rfl⟩, rfl⟩
  | cons spec rest ih =>
      unfold listenAll
      rw [listen_of_stopped T hs spec]
      obtain ⟨hsilent, hlisteners⟩ := ih (m := m.report [.listenerFailed spec .stopped]) hs
      exact ⟨⟨hsilent.toNode, hsilent.transport, hsilent.requests⟩, hlisteners⟩

theorem silent_unlisten (m : Manager σ) (spec : ListenSpec) : m.Silent (m.unlisten spec).2 := by
  unfold unlisten
  split
  · exact ⟨rfl, rfl, rfl⟩
  · next listener _ =>
      have hclose := silent_closeInlet
        { m with listeners := m.listeners.filter (·.spec ≠ spec) } listener.inlet
      exact ⟨hclose.toNode, hclose.transport, hclose.requests⟩

theorem silent_unlistenAll (specs : List ListenSpec) (m : Manager σ) :
    m.Silent (m.unlistenAll specs) := by
  unfold unlistenAll
  induction specs generalizing m with
  | nil => exact ⟨rfl, rfl, rfl⟩
  | cons spec rest ih => exact (silent_unlisten m spec).trans (ih _)

/-- **A stopped node takes over the settings of a new configuration, and asks
nothing of the transport.** -/
theorem reconfigure_of_stopped (T : Transport σ) (hs : m.isStopped = true)
    (config : LinkConfig) :
    (m.reconfigure T config).2.requests = m.requests ∧
    (m.reconfigure T config).2.listeners.Sublist m.listeners := by
  cases hc : config.settings with
  | error e =>
      unfold reconfigure
      rw [hc]
      exact ⟨rfl, .refl _⟩
  | ok settings =>
      rw [reconfigure_of_ok T m hc]
      have hends := silent_unlistenAll
        ((m.listeners.map (·.spec)).filter (· ∉ settings.listen)) { m with settings }
      have hgone := settled_unlistenAll { m with settings }
        ((m.listeners.map (·.spec)).filter (· ∉ settings.listen))
      have hs₁ : (unlistenAll { m with settings }
          ((m.listeners.map (·.spec)).filter (· ∉ settings.listen))).isStopped = true := by
        rw [hends.toNode]
        exact hs
      obtain ⟨hsilent, hlisteners⟩ := silent_listenAll T
        (settings.listen.filter (· ∉ m.listeners.map (·.spec))) hs₁
      exact ⟨hsilent.requests.trans hends.requests, hlisteners ▸ hgone.listeners⟩

end Manager

end LinkLayer

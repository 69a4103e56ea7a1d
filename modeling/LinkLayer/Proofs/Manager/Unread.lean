/-
  LinkLayer.Proofs.Manager.Unread
  ───────────────────────────────
  **WIRES THAT NOBODY READS.**

  A manager drops the wires of connections that it has no use for, and leaves
  all wires but those of its handlers alone otherwise.  So whatever is done to
  a wire in between, without regard to its being closed, can be done before or
  after: every operation of the manager commutes with it.
-/
import LinkLayer.Proofs.Manager.Keeping

namespace LinkLayer

namespace Manager

variable {σ : Type} {n : Nat} {f : Wire → Wire}

/-! ## §1. What a wire is no part of. -/

section

variable (m : Manager σ) (n : Nat) (f : Wire → Wire)

@[simp] theorem onWire_toNode : (m.onWire n f).toNode = m.toNode := rfl

@[simp] theorem onWire_isStopped : (m.onWire n f).isStopped = m.isStopped := rfl

@[simp] theorem onWire_transport : (m.onWire n f).transport = m.transport := rfl

@[simp] theorem onWire_listenerAt (spec : ListenSpec) :
    (m.onWire n f).listenerAt spec = m.listenerAt spec := rfl

@[simp] theorem onWire_inlets : (m.onWire n f).inlets = m.inlets := rfl

@[simp] theorem onWire_tasks : (m.onWire n f).tasks = m.tasks := rfl

end

theorem find?_onWire (m : Manager σ) {k : Nat} (hk : k ≠ n) :
    (m.onWire n f).wires.find? k = m.wires.find? k :=
  (Table.find?_modify _ _ _ _).trans (if_neg hk)

/-! ## §2. Inlets. -/

section

variable (hf : ∀ wire : Wire, f wire.drop = (f wire).drop)

include hf

theorem drop_onWire (m : Manager σ) (k : Nat) :
    (m.onWire n f).onWire k Wire.drop = (m.onWire k Wire.drop).onWire n f := by
  unfold onWire
  rw [Table.modify_comm m.wires fun _ => hf]

/-- An inlet is closed. -/
theorem closeInlet_onWire (m : Manager σ) (j : Nat) :
    (m.onWire n f).closeInlet j = (m.closeInlet j).onWire n f := by
  have hdrops : ∀ (queue : List Connection) (m : Manager σ),
      queue.foldl (fun m c => m.onWire c.wire Wire.drop) (m.onWire n f) =
        (queue.foldl (fun m c => m.onWire c.wire Wire.drop) m).onWire n f := by
    intro queue
    induction queue with
    | nil => exact fun _ => rfl
    | cons c rest ih =>
        intro m
        rw [List.foldl_cons, List.foldl_cons, drop_onWire hf, ih]
  unfold closeInlet
  rw [onWire_inlets]
  cases m.inlets.find? j with
  | none => rfl
  | some inlet =>
      exact hdrops inlet.queue
        { m with inlets := m.inlets.put j { inlet with queue := [], isServed := false } }

theorem finishInlet_onWire (m : Manager σ) (j : Nat) (spec : ListenSpec) :
    (m.onWire n f).finishInlet j spec = (m.finishInlet j spec).onWire n f := by
  unfold finishInlet
  rw [closeInlet_onWire hf]
  rfl

/-- A connection is delivered. -/
theorem deliver_onWire (m : Manager σ) (spec : String) (c : Connection) :
    (m.onWire n f).deliver spec c = ((m.deliver spec c).1, (m.deliver spec c).2.onWire n f) := by
  unfold deliver
  rw [onWire_inlets]
  cases m.inlets.rows.reverse.find? (·.2.spec.text = spec) with
  | none => rfl
  | some row =>
      dsimp only
      split
      · rfl
      · split
        · rw [drop_onWire hf]
        · rfl

/-! ## §3. Listeners, settings, and the stop. -/

theorem unlisten_onWire (m : Manager σ) (spec : ListenSpec) :
    ((m.onWire n f).unlisten spec).2 = (m.unlisten spec).2.onWire n f := by
  have hclose := closeInlet_onWire (n := n) hf
    { m with listeners := m.listeners.filter (·.spec ≠ spec) }
  unfold unlisten
  rw [onWire_listenerAt]
  cases m.listenerAt spec with
  | none => rfl
  | some listener =>
      exact congrArg (report · [.listenerStopped spec listener.bound]) (hclose listener.inlet)

theorem unlistenAll_onWire (m : Manager σ) (specs : List ListenSpec) :
    (m.onWire n f).unlistenAll specs = (m.unlistenAll specs).onWire n f := by
  unfold unlistenAll
  induction specs generalizing m with
  | nil => rfl
  | cons spec rest ih => rw [List.foldl_cons, List.foldl_cons, unlisten_onWire hf, ih]

theorem dropListeners_onWire (m : Manager σ) :
    (m.onWire n f).dropListeners = m.dropListeners.onWire n f := by
  have hcloses : ∀ (listeners : List Listener) (m : Manager σ),
      listeners.foldl (fun m listener => m.closeInlet listener.inlet) (m.onWire n f) =
        (listeners.foldl (fun m listener => m.closeInlet listener.inlet) m).onWire n f := by
    intro listeners
    induction listeners with
    | nil => exact fun _ => rfl
    | cons listener rest ih =>
        intro m
        rw [List.foldl_cons, List.foldl_cons, closeInlet_onWire hf, ih]
  exact hcloses m.listeners { m with listeners := [] }

end

theorem endInlet_onWire (m : Manager σ) (spec : String) :
    ((m.onWire n f).endInlet spec).2 = (m.endInlet spec).2.onWire n f := by
  unfold endInlet
  rw [onWire_inlets]
  cases m.inlets.rows.reverse.find? (·.2.spec.text = spec) <;> rfl

theorem listen_onWire (T : Transport σ) (m : Manager σ) (spec : ListenSpec) :
    (m.onWire n f).listen T spec = ((m.listen T spec).1, (m.listen T spec).2.onWire n f) := by
  unfold listen
  rw [onWire_isStopped, onWire_listenerAt, onWire_transport]
  split
  · rfl
  · cases m.listenerAt spec with
    | some listener => rfl
    | none =>
        dsimp only
        cases (T.listen spec m.transport).result <;> rfl

theorem listenAll_onWire (T : Transport σ) (m : Manager σ) (specs : List ListenSpec) :
    (m.onWire n f).listenAll T specs =
      ((m.listenAll T specs).1, (m.listenAll T specs).2.onWire n f) := by
  induction specs generalizing m with
  | nil => rfl
  | cons spec rest ih =>
      unfold listenAll
      rw [listen_onWire]
      obtain ⟨result, m'⟩ := m.listen T spec
      cases result with
      | ok bound => exact ih m'
      | error e =>
          have hreport : (m'.onWire n f).report [.listenerFailed spec e] =
              (m'.report [.listenerFailed spec e]).onWire n f := rfl
          dsimp only
          rw [hreport, ih]

/-- A caller asks for a dial. -/
theorem call_onWire (m : Manager σ) (k : Nat) (uri : String) (source : Option String) :
    (m.onWire n f).call k uri source =
      ((m.call k uri source).1, (m.call k uri source).2.onWire n f) := by
  unfold call
  rw [onWire_isStopped]
  cases CallTarget.parse uri source with
  | error e => rfl
  | ok target =>
      dsimp only
      split <;> rfl

theorem stopTransport_onWire (T : Transport σ) (m : Manager σ) :
    ((m.onWire n f).stopTransport T).2 = (m.stopTransport T).2.onWire n f := by
  unfold stopTransport
  rw [onWire_transport]
  dsimp only
  cases (T.stop m.transport).result <;> rfl

section

variable (hf : ∀ wire : Wire, f wire.drop = (f wire).drop)

include hf

theorem reconfigure_onWire (T : Transport σ) (m : Manager σ) (config : LinkConfig) :
    ((m.onWire n f).reconfigure T config).2 = (m.reconfigure T config).2.onWire n f := by
  cases hs : config.settings with
  | error e =>
      unfold reconfigure
      rw [hs]
  | ok settings =>
      have hall := unlistenAll_onWire (n := n) hf { m with settings }
        ((m.listeners.map (·.spec)).filter (· ∉ settings.listen))
      rw [reconfigure_of_ok T m hs, reconfigure_of_ok T _ hs]
      refine (congrArg (fun m' => (listenAll T m' _).2) hall).trans ?_
      rw [listenAll_onWire]
      rfl

theorem stop_onWire (T : Transport σ) (m : Manager σ) :
    ((m.onWire n f).stop T).2 = (m.stop T).2.onWire n f := by
  have hraise : (m.onWire n f).raiseStop = m.raiseStop.onWire n f := rfl
  unfold stop
  rw [onWire_isStopped, hraise, dropListeners_onWire hf]
  split
  · rfl
  · exact stopTransport_onWire T _

/-! ## §4. Moves. -/

/-- A listener makes a move. -/
theorem stepInlet_onWire (m : Manager σ) (j : Nat) :
    (m.onWire n f).stepInlet j = (m.stepInlet j).map (·.onWire n f) := by
  unfold stepInlet
  rw [onWire_inlets, onWire_isStopped]
  cases m.inlets.find? j with
  | none => rfl
  | some inlet =>
      dsimp only
      rw [finishInlet_onWire hf]
      split
      · rfl
      · split
        · rfl
        · cases inlet.queue with
          | nil =>
              dsimp only
              split <;> rfl
          | cons c queue => rfl

end

/-- A handler makes a move on another wire. -/
theorem applyMove_onWire (m : Manager σ) (t : Nat) (origin : Origin) {k : Nat} (hk : k ≠ n)
    (move : Handler.Move) :
    (m.onWire n f).applyMove t origin k move = (m.applyMove t origin k move).onWire n f := by
  unfold applyMove onWire
  rw [Table.modify_put_ne m.wires f move.wire hk]
  rfl

/-- A task makes a move. -/
theorem stepTask_onWire (T : Transport σ) (m : Manager σ) (t : Nat)
    (hn : ∀ origin h, m.tasks.find? t = some ⟨origin, .handling h⟩ → h.number ≠ n) :
    (m.onWire n f).stepTask T t = (m.stepTask T t).map (·.onWire n f) := by
  unfold stepTask
  rw [onWire_tasks]
  cases ht : m.tasks.find? t with
  | none => rfl
  | some task =>
      obtain ⟨origin, activity⟩ := task
      cases activity with
      | calling target =>
          dsimp only
          unfold startCall
          rw [onWire_isStopped]
          split <;> rfl
      | dialling target options =>
          dsimp only
          unfold dial
          rw [onWire_transport]
          dsimp only
          cases (T.dial target m.transport).result <;> rfl
      | handling h =>
          have hk := hn origin h ht
          dsimp only
          unfold stepHandler
          rw [find?_onWire m hk, onWire_toNode]
          cases h.outcome? with
          | some outcome => rfl
          | none =>
              cases m.wires.find? h.number with
              | none => rfl
              | some wire =>
                  dsimp only
                  rw [Option.map_map]
                  exact Option.map_congr fun move _ => applyMove_onWire m t origin hk move
      | done outcome => rfl

/-- A task is cancelled. -/
theorem cancel_onWire (m : Manager σ) (t : Nat)
    (hn : ∀ origin h, m.tasks.find? t = some ⟨origin, .handling h⟩ → h.number ≠ n) :
    (m.onWire n f).cancel t = (m.cancel t).onWire n f := by
  unfold cancel
  rw [onWire_tasks]
  cases ht : m.tasks.find? t with
  | none => rfl
  | some task =>
      obtain ⟨origin, activity⟩ := task
      cases activity with
      | handling h =>
          have hk := hn origin h ht
          dsimp only
          rw [find?_onWire m hk, onWire_toNode]
          cases m.wires.find? h.number with
          | none => rfl
          | some wire =>
              dsimp only
              rw [applyMove_onWire m t origin hk]
              rfl
      | _ => rfl

end Manager

end LinkLayer

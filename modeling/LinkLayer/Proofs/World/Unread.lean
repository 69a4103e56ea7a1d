/-
  LinkLayer.Proofs.World.Unread
  ─────────────────────────────
  **A CONNECTION FROM WHICH NOBODY READS YET.**

  As long as no task has a connection, its wire is dropped at most.  So other
  octets on their way in on it make no difference: whatever happens in the
  node, it happens in the same way with them (`act_onWire`).
-/
import LinkLayer.Proofs.Manager.Unread
import LinkLayer.Proofs.World.Dealing

namespace LinkLayer.World

variable {σ : Type} {T : Transport σ} {me : Identity} {w : World σ} {a : Act σ} {n t : Nat}
  {f : Wire → Wire}

section

variable (w : World σ) (g : Manager σ → Manager σ)

@[simp] theorem onManager_manager : (w.onManager g).manager = g w.manager := rfl

@[simp] theorem onManager_place : (w.onManager g).place = w.place := rfl

@[simp] theorem onManager_connection : (w.onManager g).connection = w.connection := rfl

@[simp] theorem onManager_next : (w.onManager g).next = w.next := rfl

end

/-- What is done with a loose connection does not depend on the manager. -/
theorem withLoose_onManager (w : World σ) (g : Manager σ → Manager σ) (k : Nat)
    {F F' : Connection → World σ} (h : ∀ c, F' c = (F c).onManager g) :
    (w.onManager g).withLoose k F' = (w.withLoose k F).onManager g := by
  unfold withLoose
  rw [onManager_place, onManager_connection]
  split
  · exact h _
  · rfl

/-- No task's handler is on a connection that no task has. -/
theorem Sound.number_ne (hw : w.Sound me) (hn : ∀ s, w.place n ≠ .taken s) {origin : Origin}
    {h : Handler} (ht : w.manager.tasks.find? t = some ⟨origin, .handling h⟩) : h.number ≠ n := by
  rintro rfl
  exact hn t (hw.holders t h (handler?_of_find? ht))

section

variable (hf : ∀ wire : Wire, f wire.drop = (f wire).drop)

include hf

theorem deliver_onWire (w : World σ) (spec : String) (c : Connection) :
    (w.onManager (·.onWire n f)).deliver spec c = (w.deliver spec c).onManager (·.onWire n f) := by
  unfold deliver
  rw [onManager_manager, Manager.onWire_inlets, Manager.deliver_onWire hf]
  cases w.manager.deliver spec c with
  | mk verdict m =>
      cases w.manager.inlets.rows.reverse.find? (·.2.spec.text = spec) <;> cases verdict <;> rfl

theorem inletMove_onWire (w : World σ) (j : Nat) :
    (w.onManager (·.onWire n f)).inletMove j = (w.inletMove j).onManager (·.onWire n f) := by
  have hpop : (w.onManager (·.onWire n f)).popped? j = w.popped? j := rfl
  unfold inletMove
  rw [onManager_manager, Manager.stepInlet_onWire hf, hpop]
  cases w.manager.stepInlet j with
  | none => rfl
  | some m => cases w.popped? j <;> rfl

theorem serve_onWire (w : World σ) (j : Nat) :
    (w.onManager (·.onWire n f)).serve j = (w.serve j).onManager (·.onWire n f) :=
  congrArg (·.flag w.manager.isStopped) (inletMove_onWire hf (w.flag false) j)

end

theorem call_onWire (w : World σ) (uri : String) (source : Option String) :
    (w.onManager (·.onWire n f)).call uri source =
      (w.call uri source).onManager (·.onWire n f) := by
  unfold call
  rw [onManager_manager, onManager_next, Manager.call_onWire]
  cases w.manager.call w.next uri source with
  | mk result m => cases result <;> rfl

section

variable (hw : w.Sound me) (hn : ∀ s, w.place n ≠ .taken s)

include hw hn

theorem newDeeds_onWire (t : Nat) : (w.onManager (·.onWire n f)).newDeeds t = w.newDeeds t := by
  have hhandler : (w.onManager (·.onWire n f)).handler? t = w.handler? t := rfl
  unfold newDeeds
  rw [hhandler, onManager_manager, Manager.onWire_toNode]
  cases hh : w.handler? t with
  | none => rfl
  | some h =>
      have hk : h.number ≠ n := by
        rintro rfl
        exact hn t (hw.holders t h hh)
      have hwire : (w.onManager (·.onWire n f)).wire? h.number = w.wire? h.number :=
        Manager.find?_onWire w.manager hk
      dsimp only
      rw [hwire]

theorem taskMove_onWire (T : Transport σ) (t : Nat) :
    (w.onManager (·.onWire n f)).taskMove T t = (w.taskMove T t).onManager (·.onWire n f) := by
  have hdial : (w.onManager (·.onWire n f)).dialled? T t = w.dialled? T t := rfl
  unfold taskMove
  rw [newDeeds_onWire hw hn, hdial, onManager_manager,
    Manager.stepTask_onWire T w.manager t fun _ _ => hw.number_ne hn]
  cases w.manager.stepTask T t with
  | none => rfl
  | some m =>
      cases w.dialled? T t with
      | none => rfl
      | some c =>
          -- The connection that the dial returns may be the one with the changed wire.
          refine withLoose_onManager w _ c.wire fun c' => ?_
          split <;> rfl

theorem engineMove_onWire (t : Nat) (what : EngineAct) :
    (w.onManager (·.onWire n f)).engineMove t what =
      (w.engineMove t what).onManager (·.onWire n f) := by
  unfold engineMove
  rw [onManager_manager, Manager.onWire_tasks, Manager.onWire_toNode]
  cases ht : w.manager.tasks.find? t with
  | none => rfl
  | some task =>
      obtain ⟨origin, activity⟩ := task
      cases activity with
      | handling h =>
          have hk := hw.number_ne hn ht
          have hwire : (w.onManager (·.onWire n f)).wire? h.number = w.wire? h.number :=
            Manager.find?_onWire w.manager hk
          dsimp only
          rw [hwire]
          cases h.phase with
          | tunnelling entry session =>
              cases w.wire? h.number with
              | none => rfl
              | some wire =>
                  dsimp only
                  cases h.afterEngine w.manager.toNode wire entry
                    (what.progress session wire) with
                  | none => rfl
                  | some move =>
                      exact congrArg (fun m => { w with manager := m })
                        (Manager.applyMove_onWire w.manager t origin hk move)
          | _ => rfl
      | _ => rfl

theorem cancel_onWire (t : Nat) :
    (w.onManager (·.onWire n f)).cancel t = (w.cancel t).onManager (·.onWire n f) := by
  have hhandler : (w.onManager (·.onWire n f)).handler? t = w.handler? t := rfl
  unfold World.cancel
  rw [hhandler]
  split
  · rfl
  · exact congrArg (fun m => { w with manager := m })
      (Manager.cancel_onWire w.manager t fun _ _ => hw.number_ne hn)

/-- **A change of a wire that nobody reads from can be made before an act or after
it.** -/
theorem act_onWire (hf : ∀ wire : Wire, f wire.drop = (f wire).drop) (T : Transport σ)
    (hmade : ∀ kind name source remote capacity faults,
      a = .make kind name source remote capacity faults → n ≠ w.next)
    (ha : ∀ what, a = .remote n what → ∀ wire, f (what.apply wire) = what.apply (f wire)) :
    (w.onManager (·.onWire n f)).act T a = (w.act T a).onManager (·.onWire n f) := by
  -- Most acts are an operation of the manager.
  have hmanager : ∀ {m m' : Manager σ}, m' = m.onWire n f →
      ({ w with manager := m' } : World σ) = onManager { w with manager := m } (·.onWire n f) := by
    rintro m m' rfl
    rfl
  cases a with
  | make kind name source remote capacity faults =>
      have hput := Table.modify_put_ne w.manager.wires f (Wire.new capacity faults)
        (hmade _ _ _ _ _ _ rfl).symm
      exact congrArg (fun wires => { w.make kind name source remote capacity faults with
        manager := { w.manager with wires } }) hput.symm
  | discard k =>
      refine withLoose_onManager w _ k fun c => ?_
      exact congrArg (give · k .discarded) (hmanager (Manager.drop_onWire hf w.manager k))
  | run k incoming forced options => exact withLoose_onManager w _ k fun c => rfl
  | accept k forced => exact withLoose_onManager w _ k fun c => rfl
  | connect target => rfl
  | call uri source => exact call_onWire w uri source
  | deliver spec k => exact withLoose_onManager w _ k fun c => deliver_onWire hf w spec c
  | endInlet spec => exact hmanager (Manager.endInlet_onWire _ _)
  | remote k what =>
      -- What the remote end does is the one thing that can depend on the wire.
      have hcomm := Table.modify_comm (k := k) w.manager.wires
        (f := f) (g := what.apply) fun hk wire => ha what (hk ▸ rfl) wire
      exact congrArg (fun wires => { w with manager := { w.manager with wires } }) hcomm.symm
  | clock now => rfl
  | engine engine => rfl
  | transport state => rfl
  | listen spec => exact hmanager (congrArg Prod.snd (Manager.listen_onWire T _ spec))
  | unlisten spec => exact hmanager (Manager.unlisten_onWire hf _ spec)
  | reconfigure config => exact hmanager (Manager.reconfigure_onWire hf T _ config)
  | adopt settings => rfl
  | stop => exact hmanager (Manager.stop_onWire hf T _)
  | raiseStop => rfl
  | dropListeners =>
      simp only [act]
      rw [onManager_manager, Manager.onWire_isStopped]
      split
      · exact hmanager (Manager.dropListeners_onWire hf _)
      · rfl
  | stopTransport =>
      simp only [act]
      rw [onManager_manager, Manager.onWire_isStopped]
      split
      · exact hmanager (Manager.stopTransport_onWire T _)
      · rfl
  | inlet j => exact inletMove_onWire hf w j
  | serve j => exact serve_onWire hf w j
  | task t => exact taskMove_onWire hw hn T t
  | tunnel t what => exact engineMove_onWire hw hn t what
  | cancel t => exact cancel_onWire hw hn t

end

end LinkLayer.World

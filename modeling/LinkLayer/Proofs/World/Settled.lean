/-
  LinkLayer.Proofs.World.Settled
  ──────────────────────────────
  **LISTENERS AND CLOCK, ACT BY ACT.**

  Three kinds of acts do something to the listeners or to the clock beyond
  taking listeners away: a request to listen, a new configuration, and the
  passing of time.  All other acts leave the node as settled as it was.

    • `settled_act` — the case analysis over all acts,
    • `orderly_act`, `orderly_run` — every act leaves the listeners in order,
    • `now_act` — time passes by the acts of the clock alone.
-/
import LinkLayer.Proofs.Manager.Stop
import LinkLayer.Proofs.World.Preservation

namespace LinkLayer

/-! ## §1. Operations of a manager. -/

namespace Manager

variable {σ : Type} {m : Manager σ}

/-- Who listens does nothing to the node. -/
theorem toNode_listen (T : Transport σ) (m : Manager σ) (spec : ListenSpec) :
    (m.listen T spec).2.toNode = m.toNode := by
  unfold Manager.listen
  split
  · rfl
  · split
    · rfl
    · dsimp only
      split <;> rfl

theorem toNode_listenAll (T : Transport σ) (specs : List ListenSpec) (m : Manager σ) :
    (m.listenAll T specs).2.toNode = m.toNode := by
  induction specs generalizing m with
  | nil => rfl
  | cons spec rest ih =>
      have hl := toNode_listen T m spec
      unfold Manager.listenAll
      split
      · next hm =>
          rw [hm] at hl
          exact (ih _).trans hl
      · next hm =>
          rw [hm] at hl
          exact (ih _).trans hl

/-- A new configuration brings new settings at most. -/
theorem toNode_reconfigure (T : Transport σ) (m : Manager σ) (config : LinkConfig) :
    ∃ settings, (m.reconfigure T config).2.toNode = { m.toNode with settings } := by
  cases hc : config.settings with
  | error e =>
      unfold Manager.reconfigure
      rw [hc]
      exact ⟨m.settings, rfl⟩
  | ok settings =>
      rw [reconfigure_of_ok T m hc, toNode_listenAll, (silent_unlistenAll _ _).toNode]
      exact ⟨settings, rfl⟩

theorem settled_dropListeners (m : Manager σ) : m.Settled m.dropListeners := by
  have hfold : ∀ (ls : List Listener) (m₀ : Manager σ),
      m₀.Settled (ls.foldl (fun m listener => m.closeInlet listener.inlet) m₀) := by
    intro ls
    induction ls with
    | nil => exact Settled.refl
    | cons l rest ih =>
        intro m₀
        exact (settled_closeInlet m₀ l.inlet).trans (ih _)
  have hnone : m.Settled { m with listeners := [] } := ⟨List.nil_sublist _, rfl, rfl⟩
  exact hnone.trans (hfold _ _)

theorem settled_stopTransport (T : Transport σ) (m : Manager σ) :
    m.Settled (m.stopTransport T).2 := by
  unfold stopTransport
  dsimp only
  split <;> exact ⟨.refl _, rfl, rfl⟩

theorem settled_stop (T : Transport σ) (m : Manager σ) : m.Settled (m.stop T).2 := by
  unfold stop
  split
  · exact .refl m
  · have hraise : m.Settled m.raiseStop := ⟨.refl _, rfl, rfl⟩
    exact (hraise.trans (settled_dropListeners _)).trans (settled_stopTransport T _)

theorem settled_endInlet (hn : m.inlets.numbers.Nodup) (spec : String) :
    m.Settled (m.endInlet spec).2 := by
  unfold endInlet
  split
  · exact .refl m
  · next j inlet hj =>
      exact settled_putInlet (Table.find?_of_mem hn (mem_of_find?_reverse hj)) _

theorem settled_deliver (hn : m.inlets.numbers.Nodup) (spec : String) (c : Connection) :
    m.Settled (m.deliver spec c).2 := by
  unfold deliver
  split
  · exact .refl m
  · next j inlet hj =>
      split
      · exact .refl m
      · split
        · exact ⟨.refl _, rfl, rfl⟩
        · exact settled_putInlet (Table.find?_of_mem hn (mem_of_find?_reverse hj)) _

theorem settled_stepInlet {m' : Manager σ} {j : Nat} (h : m.stepInlet j = some m') :
    m.Settled m' := by
  unfold stepInlet at h
  have hfinish : ∀ spec, m.Settled (m.finishInlet j spec) := fun spec =>
    (settled_closeInlet m j).trans ⟨.refl _, rfl, rfl⟩
  split at h
  · cases h
  · next inlet hj =>
      split at h
      · cases h
      · split at h
        · cases h
          exact hfinish _
        · split at h
          · cases h
            exact (settled_putInlet hj _).trans ⟨.refl _, rfl, rfl⟩
          · split at h
            · cases h
            · cases h
              exact hfinish _

/-- A task changes no listener. -/
theorem settled_stepTask {T : Transport σ} {m' : Manager σ} {t : Nat}
    (h : m.stepTask T t = some m') : m.Settled m' := by
  unfold stepTask at h
  split at h
  · cases h
  · next task _ =>
      obtain ⟨origin, activity⟩ := task
      cases activity with
      | calling target =>
          cases h
          unfold startCall
          split <;> exact ⟨.refl _, rfl, rfl⟩
      | dialling target options =>
          cases h
          unfold dial
          dsimp only
          split <;> exact ⟨.refl _, rfl, rfl⟩
      | handling handler =>
          dsimp only at h
          unfold stepHandler at h
          split at h
          · cases h
            exact ⟨.refl _, rfl, rfl⟩
          · split at h
            · cases h
            · obtain ⟨move, -, rfl⟩ := Option.map_eq_some_iff.mp h
              exact ⟨.refl _, rfl, rfl⟩
      | done outcome => cases h

theorem settled_cancel (m : Manager σ) (t : Nat) : m.Settled (m.cancel t) := by
  unfold cancel
  split
  · exact .refl m
  · split
    · exact .refl m
    · split <;> exact ⟨.refl _, rfl, rfl⟩
    · exact ⟨.refl _, rfl, rfl⟩

end Manager

/-! ## §2. Acts. -/

/-- An act asks for a listener, or for a new configuration, or lets time
pass. -/
def Act.unsettles {σ : Type} : Act σ → Bool
  | .listen _ | .reconfigure _ | .clock _ => true
  | _ => false

namespace World

variable {σ : Type} {me : Identity} {w : World σ}

theorem settled_withLoose {n : Nat} {f : Connection → World σ}
    (hf : ∀ c, w.manager.Settled (f c).manager) : w.manager.Settled (w.withLoose n f).manager := by
  rcases withLoose_cases w n f with he | ⟨c, -, -, he⟩
  · rw [he]
    exact .refl _
  · rw [he]
    exact hf c

theorem settled_deliver (hn : w.manager.inlets.numbers.Nodup) (spec : String)
    (c : Connection) : w.manager.Settled (w.deliver spec c).manager := by
  have hm := Manager.settled_deliver hn spec c
  unfold World.deliver
  split
  · next m _ _ hd _ =>
      rw [hd] at hm
      exact hm
  · next m hd =>
      rw [hd] at hm
      exact hm
  · exact .refl _

theorem settled_call (w : World σ) (uri : String) (source : Option String) :
    w.manager.Settled (w.call uri source).manager := by
  unfold call Manager.call
  cases CallTarget.parse uri source with
  | error e => exact .refl _
  | ok target =>
      dsimp only
      split
      · next hm =>
          split at hm
          · cases hm
          · cases hm
            exact ⟨.refl _, rfl, rfl⟩
      · exact .refl _

theorem settled_inletMove (w : World σ) (j : Nat) :
    w.manager.Settled (w.inletMove j).manager := by
  unfold inletMove
  split
  · exact .refl _
  · next hm => split <;> exact Manager.settled_stepInlet hm

theorem settled_serve (w : World σ) (j : Nat) : w.manager.Settled (w.serve j).manager := by
  -- The flag is no matter of the listeners.
  have hmove := settled_inletMove (w.flag false) j
  exact ⟨hmove.listeners, hmove.numbers, hmove.now⟩

theorem settled_taskMove (T : Transport σ) (w : World σ) (t : Nat) :
    w.manager.Settled (w.taskMove T t).manager := by
  unfold taskMove
  split
  · exact .refl _
  · next hm =>
      split
      · exact Manager.settled_stepTask hm
      · refine settled_withLoose fun c => ?_
        split
        · exact Manager.settled_stepTask hm
        · exact .refl _

theorem settled_engineMove (w : World σ) (t : Nat) (what : EngineAct) :
    w.manager.Settled (w.engineMove t what).manager := by
  unfold engineMove
  split
  · split
    · split <;> exact ⟨.refl _, rfl, rfl⟩
    · exact .refl _
  · exact .refl _

/-- **All other acts leave the node settled.** -/
theorem settled_act (T : Transport σ) (hw : w.Sound me) {a : Act σ}
    (ha : a.unsettles = false) : w.manager.Settled (w.act T a).manager := by
  cases a with
  | listen spec => cases ha
  | reconfigure config => cases ha
  | clock now => cases ha
  | unlisten spec => exact Manager.settled_unlisten _ spec
  | deliver spec n => exact settled_withLoose fun c => settled_deliver hw.inlets spec c
  | endInlet spec => exact Manager.settled_endInlet hw.inlets spec
  | inlet j => exact settled_inletMove w j
  | serve j => exact settled_serve w j
  | stop => exact Manager.settled_stop T _
  | dropListeners =>
      show w.manager.Settled (if w.manager.isStopped then w.onManager _ else w).manager
      split
      · exact Manager.settled_dropListeners _
      · exact .refl _
  | stopTransport =>
      show w.manager.Settled (if w.manager.isStopped then w.onManager _ else w).manager
      split
      · exact Manager.settled_stopTransport T _
      · exact .refl _
  | discard n => exact settled_withLoose fun c => ⟨.refl _, rfl, rfl⟩
  | run n incoming forced options => exact settled_withLoose fun c => ⟨.refl _, rfl, rfl⟩
  | accept n forced => exact settled_withLoose fun c => ⟨.refl _, rfl, rfl⟩
  | call uri source => exact settled_call w uri source
  | task t => exact settled_taskMove T w t
  | tunnel t what => exact settled_engineMove w t what
  | cancel t =>
      show w.manager.Settled
        (if (w.handler? t).any Handler.isBusy then w else w.onManager _).manager
      split
      · exact .refl _
      · exact Manager.settled_cancel _ t
  -- Nothing else has to do with listeners.
  | _ => exact ⟨.refl _, rfl, rfl⟩

/-- **Every act leaves the listeners in order.** -/
theorem orderly_act (T : Transport σ) (hw : w.Sound me) (ho : w.manager.Orderly)
    (a : Act σ) : (w.act T a).manager.Orderly := by
  cases ha : a.unsettles with
  | false => exact ho.of_settled (settled_act T hw ha)
  | true =>
      cases a with
      | listen spec => exact ho.listen T spec
      | reconfigure config => exact ho.reconfigure T config
      | clock now => exact ⟨ho.places, ho.inlets, ho.opened, ho.numbers⟩
      | _ => cases ha

/-- **Time passes by the acts of the clock alone.** -/
theorem now_act (T : Transport σ) (hw : w.Sound me) {a : Act σ}
    (ha : ∀ now, a ≠ .clock now) : (w.act T a).manager.now = w.manager.now := by
  cases hu : a.unsettles with
  | false => exact (settled_act T hw hu).now
  | true =>
      cases a with
      | listen spec => exact congrArg Node.now (Manager.toNode_listen T _ spec)
      | reconfigure config =>
          obtain ⟨settings, hnode⟩ := Manager.toNode_reconfigure T w.manager config
          exact (congrArg Node.now hnode).trans rfl
      | clock now => exact absurd rfl (ha now)
      | _ => cases hu

theorem orderly_start (me : Identity) (settings : Settings) (engine : Engine) (state : σ) :
    (start me settings engine state).manager.Orderly where
  places := .nil
  inlets := .nil
  opened := fun _ h => absurd h List.not_mem_nil
  numbers := fun _ h => absurd h List.not_mem_nil

/-- **After every run, the listeners are in order.** -/
theorem orderly_run (T : Transport σ) (me : Identity) (settings : Settings) (engine : Engine)
    (state : σ) (acts : List (Act σ)) :
    ((start me settings engine state).run T acts).manager.Orderly := by
  have ho := orderly_start me settings engine state
  refine (sound_start me settings engine state).run_keeps T (p := fun w => w.manager.Orderly)
    ?_ ho acts
  intro w a hw ho
  exact orderly_act T hw ho a

end World

end LinkLayer

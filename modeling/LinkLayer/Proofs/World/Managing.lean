/-
  LinkLayer.Proofs.World.Managing
  ───────────────────────────────
  **WHAT AN ACT MEANS TO THE MANAGER.**

  `Change` says what an act makes of the links.  `Manages` says what it makes
  of all else that a manager looks after: the listeners and their queues, the
  flag of the stop, and the requests to the transport.  Most acts do nothing
  to any of these; a dial is a request, deliveries and the moves of listeners
  change one queue, and the rest is what the manager was asked to do.

    • `manages_act` — every act is of this list,
    • `staffed_run` — what is served belongs to a listener in force,
    • `demands_act` — what an act asks of the transport,
    • `isStopped_act` — only a stop raises the flag, and nothing lowers it.
-/
import LinkLayer.Proofs.World.Settled

namespace LinkLayer

/-! ## §1. Parts of a manager. -/

namespace Manager

variable {σ : Type} {m m' m'' : Manager σ}

/-- Listeners, queues, the flag of the stop and the requests are the same. -/
structure Apart (m m' : Manager σ) : Prop where
  listeners : m'.listeners = m.listeners
  inlets : m'.inlets = m.inlets
  isStopped : m'.isStopped = m.isStopped
  requests : m'.requests = m.requests

theorem Apart.refl (m : Manager σ) : m.Apart m := ⟨rfl, rfl, rfl, rfl⟩

theorem apart_stepHandler {t : Nat} {origin : Origin} {h : Handler}
    (hm : m.stepHandler t origin h = some m') : m.Apart m' := by
  unfold stepHandler at hm
  split at hm
  · cases hm
    exact ⟨rfl, rfl, rfl, rfl⟩
  · split at hm
    · cases hm
    · obtain ⟨move, -, rfl⟩ := Option.map_eq_some_iff.mp hm
      exact ⟨rfl, rfl, rfl, rfl⟩

theorem apart_startCall (m : Manager σ) (t : Nat) (origin : Origin) (target : CallTarget) :
    m.Apart (m.startCall t origin target) := by
  unfold startCall
  split <;> exact ⟨rfl, rfl, rfl, rfl⟩

/-- A dial is a request, whatever comes of it. -/
theorem apart_dial (T : Transport σ) (m : Manager σ) (t : Nat) (origin : Origin)
    (target : DialTarget) (options : LinkOptions) :
    Apart { m with requests := m.requests ++ [.dial target] }
      (m.dial T t origin target options) := by
  unfold dial
  dsimp only
  split <;> exact ⟨rfl, rfl, rfl, rfl⟩

theorem apart_cancel (m : Manager σ) (t : Nat) : m.Apart (m.cancel t) := by
  unfold cancel
  split
  · exact .refl m
  · split
    · exact .refl m
    · split <;> exact ⟨rfl, rfl, rfl, rfl⟩
    · exact ⟨rfl, rfl, rfl, rfl⟩

/-! ## §2. Requests for listeners. -/

/-- A new listener is one request, if it is any. -/
theorem requests_listen (T : Transport σ) (m : Manager σ) (spec : ListenSpec) :
    (m.listen T spec).2.requests = m.requests ∨
      (m.listen T spec).2.requests = m.requests ++ [.listen spec] := by
  unfold listen
  split
  · exact .inl rfl
  · split
    · exact .inl rfl
    · dsimp only
      split <;> exact .inr rfl

theorem requests_listenAll (T : Transport σ) (specs : List ListenSpec) (m : Manager σ) :
    ∃ asked : List ListenSpec,
      (m.listenAll T specs).2.requests = m.requests ++ asked.map .listen := by
  induction specs generalizing m with
  | nil => exact ⟨[], (List.append_nil _).symm⟩
  | cons spec rest ih =>
      have hl := requests_listen T m spec
      have hrest : ∀ m₁ : Manager σ, m₁.requests = (m.listen T spec).2.requests →
          ∃ asked : List ListenSpec,
            (m₁.listenAll T rest).2.requests = m.requests ++ asked.map .listen := by
        intro m₁ h₁
        obtain ⟨asked, hasked⟩ := ih m₁
        rcases hl with hl | hl
        · exact ⟨asked, by rw [hasked, h₁, hl]⟩
        · exact ⟨spec :: asked, by rw [hasked, h₁, hl]; simp⟩
      unfold listenAll
      split
      · next hm => exact hrest _ (by rw [hm])
      · next hm => exact hrest _ (by rw [hm]; rfl)

/-- A new configuration asks for listeners, and for nothing else. -/
theorem requests_reconfigure (T : Transport σ) (m : Manager σ) (config : LinkConfig) :
    ∃ asked : List ListenSpec,
      (m.reconfigure T config).2.requests = m.requests ++ asked.map .listen := by
  cases hc : config.settings with
  | error e =>
      unfold reconfigure
      rw [hc]
      exact ⟨[], (List.append_nil _).symm⟩
  | ok settings =>
      rw [reconfigure_of_ok T m hc]
      obtain ⟨asked, hasked⟩ := requests_listenAll T
        (settings.listen.filter (· ∉ m.listeners.map (·.spec)))
        (unlistenAll { m with settings } ((m.listeners.map (·.spec)).filter (· ∉ settings.listen)))
      exact ⟨asked, by rw [hasked, (silent_unlistenAll _ _).requests]⟩

end Manager

/-! ## §3. What an act is to the manager. -/

/-- An act raises the flag of the stop. -/
def Act.raises {σ : Type} : Act σ → Bool
  | .stop | .raiseStop => true
  | _ => false

namespace World

variable {σ : Type} {T : Transport σ} {me : Identity} {w : World σ} {a : Act σ}

open Manager (Apart)

/-- What an act can make of listeners, queues, stop and requests. -/
inductive Manages (T : Transport σ) (w : World σ) : Act σ → Manager σ → Prop
  | apart {a : Act σ} {m : Manager σ} : w.manager.Apart m → Manages T w a m
  | dial {t : Nat} {origin : Origin} {target : DialTarget} {options : LinkOptions}
      {m : Manager σ} : w.manager.tasks.find? t = some ⟨origin, .dialling target options⟩ →
      Apart { w.manager with requests := w.manager.requests ++ [.dial target] } m →
      Manages T w (.task t) m
  | enqueue {spec : String} {n j : Nat} {inlet : Inlet} {c : Connection} {m : Manager σ} :
      w.place n = .loose → w.connection n = some c →
      w.manager.inlets.find? j = some inlet → inlet.isServed = true →
      Apart { w.manager with
        inlets := w.manager.inlets.put j { inlet with queue := inlet.queue ++ [c] } } m →
      Manages T w (.deliver spec n) m
  | pop {a : Act σ} {j : Nat} {inlet : Inlet} {c : Connection} {queue : List Connection}
      {m : Manager σ} : a = .inlet j ∨ a = .serve j →
      w.manager.inlets.find? j = some inlet → inlet.isServed = true → inlet.queue = c :: queue →
      Apart { w.manager with inlets := w.manager.inlets.put j { inlet with queue } } m →
      Manages T w a m
  | finish {a : Act σ} {j : Nat} {inlet : Inlet} {m : Manager σ} :
      a = .inlet j ∨ a = .serve j →
      w.manager.inlets.find? j = some inlet → inlet.isServed = true →
      (a = .inlet j ∧ w.manager.isStopped = true) ∨ inlet.queue = [] →
      Apart (w.manager.closeInlet j) m → Manages T w a m
  | endInlet (spec : String) : Manages T w (.endInlet spec) (w.manager.endInlet spec).2
  | listen (spec : ListenSpec) : Manages T w (.listen spec) (w.manager.listen T spec).2
  | unlisten (spec : ListenSpec) : Manages T w (.unlisten spec) (w.manager.unlisten spec).2
  | reconfigure (config : LinkConfig) :
      Manages T w (.reconfigure config) (w.manager.reconfigure T config).2
  | stop : Manages T w .stop (w.manager.stop T).2
  | raiseStop : Manages T w .raiseStop w.manager.raiseStop
  | dropListeners : w.manager.isStopped = true →
      Manages T w .dropListeners w.manager.dropListeners
  | stopTransport : w.manager.isStopped = true →
      Manages T w .stopTransport (w.manager.stopTransport T).2

theorem manages_same : Manages T w a w.manager := .apart (.refl _)

theorem manages_withLoose {n : Nat} {f : Connection → World σ}
    (hf : ∀ c, w.place n = .loose → w.connection n = some c → Manages T w a (f c).manager) :
    Manages T w a (w.withLoose n f).manager := by
  rcases withLoose_cases w n f with he | ⟨c, hp, hc, he⟩
  · rw [he]
    exact manages_same
  · rw [he]
    exact hf c hp hc

theorem manages_deliver (hw : w.Sound me) (spec : String) {n : Nat} {c : Connection}
    (hp : w.place n = .loose) (hc : w.connection n = some c) :
    Manages T w (.deliver spec n) (w.deliver spec c).manager := by
  rcases deliver_cases w spec c with ⟨-, he⟩ | ⟨-, he⟩ | ⟨j, inlet, hj, hserved, -, he⟩ <;>
    rw [he]
  · exact manages_same
  · exact .apart ⟨rfl, rfl, rfl, rfl⟩
  · exact .enqueue hp hc (hw.find?_of_last hj) hserved ⟨rfl, rfl, rfl, rfl⟩

theorem manages_call (uri : String) (source : Option String) :
    Manages T w a (w.call uri source).manager := by
  unfold call Manager.call
  cases CallTarget.parse uri source with
  | error e => exact manages_same
  | ok target =>
      dsimp only
      split
      · next hm =>
          split at hm
          · cases hm
          · cases hm
            exact .apart ⟨rfl, rfl, rfl, rfl⟩
      · exact manages_same

theorem manages_inletMove (w : World σ) (j : Nat) :
    Manages T w (.inlet j) (w.inletMove j).manager := by
  rcases inletMove_cases w j with
    ⟨-, he | ⟨inlet, hj, hs, hwhy, he⟩⟩ | ⟨inlet, c, queue, -, hj, hs, hq, he⟩
  · rw [he]
    exact manages_same
  · rw [he]
    exact .finish (.inl rfl) hj hs (hwhy.imp_left fun hst => ⟨rfl, hst⟩) ⟨rfl, rfl, rfl, rfl⟩
  · rw [he]
    exact .pop (.inl rfl) hj hs hq ⟨rfl, rfl, rfl, rfl⟩

/-- A listener that does not look at the stop finishes only when nothing waits
in its queue. -/
theorem manages_serve (w : World σ) (j : Nat) :
    Manages T w (.serve j) (w.serve j).manager := by
  unfold serve
  rcases inletMove_cases (w.flag false) j with
    ⟨-, he | ⟨inlet, hj, hs, hwhy, he⟩⟩ | ⟨inlet, c, queue, -, hj, hs, hq, he⟩
  · rw [he]
    exact .apart ⟨rfl, rfl, rfl, rfl⟩
  · rw [he]
    have hnil : inlet.queue = [] := hwhy.resolve_left Bool.false_ne_true
    have hclose := Manager.closeInlet_of_some (m := w.manager) hj
    have hclose' := Manager.closeInlet_of_some (m := (w.flag false).manager) hj
    refine .finish (.inr rfl) hj hs (.inr hnil) ?_
    rw [hclose]
    show Apart _ { ((w.flag false).manager.closeInlet j).report _ with
      isStopped := w.manager.isStopped }
    rw [hclose']
    exact ⟨rfl, rfl, rfl, rfl⟩
  · rw [he]
    exact .pop (.inr rfl) hj hs hq ⟨rfl, rfl, rfl, rfl⟩

theorem manages_taskMove (T : Transport σ) (w : World σ) (t : Nat) :
    Manages T w (.task t) (w.taskMove T t).manager := by
  have hstep : ∀ m, w.manager.stepTask T t = some m → Manages T w (.task t) m := by
    intro m hm
    unfold Manager.stepTask at hm
    split at hm
    · cases hm
    · next task ht =>
        obtain ⟨origin, activity⟩ := task
        cases activity with
        | calling target =>
            cases hm
            exact .apart (Manager.apart_startCall _ _ _ _)
        | dialling target options =>
            cases hm
            exact .dial ht (Manager.apart_dial T _ _ _ _ _)
        | handling h => exact .apart (Manager.apart_stepHandler hm)
        | done outcome => cases hm
  unfold taskMove
  split
  · exact manages_same
  · next m hm =>
      split
      · exact hstep m hm
      · refine manages_withLoose fun c _ _ => ?_
        split
        · exact hstep m hm
        · exact manages_same

theorem manages_engineMove (w : World σ) (t : Nat) (what : EngineAct) :
    Manages T w a (w.engineMove t what).manager := by
  unfold engineMove
  split
  · split
    · split
      · exact manages_same
      · exact .apart ⟨rfl, rfl, rfl, rfl⟩
    · exact manages_same
  · exact manages_same

/-- **Every act is one of these to the manager.** -/
theorem manages_act (T : Transport σ) (hw : w.Sound me) (a : Act σ) :
    Manages T w a (w.act T a).manager := by
  cases a with
  | discard n => exact manages_withLoose fun c _ _ => .apart ⟨rfl, rfl, rfl, rfl⟩
  | run n incoming forced options =>
      exact manages_withLoose fun c _ _ => .apart ⟨rfl, rfl, rfl, rfl⟩
  | accept n forced => exact manages_withLoose fun c _ _ => .apart ⟨rfl, rfl, rfl, rfl⟩
  | call uri source => exact manages_call uri source
  | deliver spec n => exact manages_withLoose fun c hp hc => manages_deliver hw spec hp hc
  | endInlet spec => exact .endInlet spec
  | listen spec => exact .listen spec
  | unlisten spec => exact .unlisten spec
  | reconfigure config => exact .reconfigure config
  | stop => exact .stop
  | raiseStop => exact .raiseStop
  | dropListeners =>
      show Manages T w _ (if w.manager.isStopped then _ else _ : World σ).manager
      split
      · next hs => exact .dropListeners hs
      · exact manages_same
  | stopTransport =>
      show Manages T w _ (if w.manager.isStopped then _ else _ : World σ).manager
      split
      · next hs => exact .stopTransport hs
      · exact manages_same
  | inlet j => exact manages_inletMove w j
  | serve j => exact manages_serve w j
  | task t => exact manages_taskMove T w t
  | tunnel t what => exact manages_engineMove w t what
  | cancel t =>
      show Manages T w _ (if (w.handler? t).any Handler.isBusy then w else _ : World σ).manager
      split
      · exact manages_same
      · exact .apart (Manager.apart_cancel _ t)
  -- Nothing else has to do with any of these.
  | _ => exact .apart ⟨rfl, rfl, rfl, rfl⟩

/-! ## §4. Queues and listeners. -/

/-- **Every act leaves the queues with their listeners.** -/
theorem staffed_act (T : Transport σ) (hw : w.Sound me) (ho : w.manager.Orderly)
    (hs : w.manager.Staffed) (a : Act σ) : (w.act T a).manager.Staffed := by
  have hmanages := manages_act T hw a
  generalize (w.act T a).manager = m at hmanages
  cases hmanages with
  | apart hm => exact hs.of_same hm.inlets hm.listeners
  | dial _ hm => exact hs.of_same hm.inlets hm.listeners
  | @enqueue _ _ j inlet c _ _ _ hj hserved hm =>
      refine hs.of_put (fun h => ?_) hm.inlets (fun _ => ?_) fun l hl _ => hm.listeners ▸ hl
      · cases hserved.symm.trans h
      · exact hm.listeners ▸ hs.staff j inlet hj hserved
  | @pop _ j inlet c queue _ _ hj hserved hq hm =>
      refine hs.of_put (fun h => ?_) hm.inlets (fun _ => ?_) fun l hl _ => hm.listeners ▸ hl
      · cases hserved.symm.trans h
      · exact hm.listeners ▸ hs.staff j inlet hj hserved
  | @finish _ j inlet _ _ _ _ _ hm =>
      have hclose := hs.closeInlet j fun _ hl _ => hl
      exact hclose.of_same hm.inlets hm.listeners
  | endInlet spec => exact hs.endInlet hw.inlets spec
  | listen spec => exact hs.listen T spec
  | unlisten spec => exact hs.unlisten ho spec
  | reconfigure config => exact hs.reconfigure ho T config
  | stop => exact hs.stop T
  | raiseStop => exact hs.of_same rfl rfl
  | dropListeners => exact hs.dropListeners
  | stopTransport => exact hs.stopTransport T

theorem staffed_start (me : Identity) (settings : Settings) (engine : Engine) (state : σ) :
    (start me settings engine state).manager.Staffed := by
  constructor <;>
    · intro j inlet hj
      cases hj

/-- **After every run, what is served belongs to a listener in force.** -/
theorem staffed_run (T : Transport σ) (me : Identity) (settings : Settings) (engine : Engine)
    (state : σ) (acts : List (Act σ)) :
    ((start me settings engine state).run T acts).manager.Staffed := by
  have hboth := (sound_start me settings engine state).run_keeps T
    (p := fun w => w.manager.Orderly ∧ w.manager.Staffed) (fun hw h =>
      ⟨orderly_act T hw h.1 _, staffed_act T hw h.1 h.2 _⟩)
    ⟨orderly_start me settings engine state, staffed_start me settings engine state⟩ acts
  exact hboth.2

/-! ## §5. Requests and the stop. -/

/-- What an act asks of the transport. -/
inductive Demands (w : World σ) : Act σ → List Request → Prop
  | nothing {a : Act σ} : Demands w a []
  | listens {a : Act σ} (specs : List ListenSpec) : w.manager.isStopped = false →
      Demands w a (specs.map .listen)
  | stop : w.manager.isStopped = false → Demands w .stop [.stop]
  | stopTransport : w.manager.isStopped = true → Demands w .stopTransport [.stop]
  | dial {t : Nat} {origin : Origin} {target : DialTarget} {options : LinkOptions} :
      w.manager.tasks.find? t = some ⟨origin, .dialling target options⟩ →
      Demands w (.task t) [.dial target]

/-- **Every request is that of a dial, of a stop, or of a node that is not
stopped.** -/
theorem demands_act (T : Transport σ) (hw : w.Sound me) (a : Act σ) :
    ∃ new, (w.act T a).manager.requests = w.manager.requests ++ new ∧ Demands w a new := by
  have hnothing : ∀ {m : Manager σ}, m.requests = w.manager.requests →
      ∃ new, m.requests = w.manager.requests ++ new ∧ Demands w a new :=
    fun h => ⟨[], h.trans (List.append_nil _).symm, .nothing⟩
  have hmanages := manages_act T hw a
  generalize (w.act T a).manager = m at hmanages
  cases hmanages with
  | apart hm => exact hnothing hm.requests
  | dial ht hm => exact ⟨_, hm.requests, .dial ht⟩
  | enqueue _ _ _ _ hm => exact hnothing hm.requests
  | pop _ _ _ _ hm => exact hnothing hm.requests
  | finish _ _ _ _ hm =>
      exact hnothing (hm.requests.trans (Manager.silent_closeInlet _ _).requests)
  | endInlet spec =>
      refine hnothing ?_
      unfold Manager.endInlet
      split <;> rfl
  | unlisten spec => exact hnothing (Manager.silent_unlisten _ spec).requests
  | raiseStop => exact hnothing rfl
  | dropListeners => exact hnothing (Manager.silent_dropListeners _).requests
  | stopTransport hs => exact ⟨_, (Manager.stopTransport_eq T _).2.2.1, .stopTransport hs⟩
  | listen spec =>
      cases hs : w.manager.isStopped with
      | true => exact hnothing (by rw [Manager.listen_of_stopped T hs])
      | false =>
          rcases Manager.requests_listen T w.manager spec with h | h
          · exact hnothing h
          · exact ⟨_, h, .listens [spec] hs⟩
  | reconfigure config =>
      cases hs : w.manager.isStopped with
      | true => exact hnothing (Manager.reconfigure_of_stopped T hs config).1
      | false =>
          obtain ⟨specs, h⟩ := Manager.requests_reconfigure T w.manager config
          exact ⟨_, h, .listens specs hs⟩
  | stop =>
      cases hs : w.manager.isStopped with
      | true => exact hnothing (by rw [Manager.stop_of_stopped T hs])
      | false => exact ⟨_, (Manager.stop_of_running T hs).requests, .stop hs⟩

/-- No other act does anything to the flag. -/
theorem Manages.isStopped {m : Manager σ} (h : Manages T w a m) (ha : a.raises = false) :
    m.isStopped = w.manager.isStopped := by
  cases h with
  | apart hm => exact hm.isStopped
  | dial _ hm => exact hm.isStopped
  | enqueue _ _ _ _ hm => exact hm.isStopped
  | pop _ _ _ _ hm => exact hm.isStopped
  | finish _ _ _ _ hm =>
      exact hm.isStopped.trans (congrArg Node.isStopped (Manager.silent_closeInlet _ _).toNode)
  | endInlet spec =>
      unfold Manager.endInlet
      split <;> rfl
  | listen spec => exact congrArg Node.isStopped (Manager.toNode_listen T _ spec)
  | unlisten spec => exact congrArg Node.isStopped (Manager.silent_unlisten _ spec).toNode
  | reconfigure config =>
      obtain ⟨settings, hnode⟩ := Manager.toNode_reconfigure T w.manager config
      exact (congrArg Node.isStopped hnode).trans rfl
  | stop => cases ha
  | raiseStop => cases ha
  | dropListeners => exact congrArg Node.isStopped (Manager.silent_dropListeners _).toNode
  | stopTransport => exact congrArg Node.isStopped (Manager.stopTransport_eq T _).2.1

/-- **Only a stop raises the flag, and nothing lowers it.** -/
theorem isStopped_act (T : Transport σ) (hw : w.Sound me) (a : Act σ) :
    (w.act T a).manager.isStopped = (w.manager.isStopped || a.raises) := by
  cases ha : a.raises with
  | false => rw [(manages_act T hw a).isStopped ha, Bool.or_false]
  | true =>
      rw [Bool.or_true]
      cases a with
      | stop =>
          show (w.manager.stop T).2.isStopped = true
          cases hs : w.manager.isStopped with
          | true => rw [Manager.stop_of_stopped T hs, hs]
          | false => exact congrArg Node.isStopped (Manager.stop_of_running T hs).toNode
      | raiseStop => rfl
      | _ => cases ha

end World

end LinkLayer

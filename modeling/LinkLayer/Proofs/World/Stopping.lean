/-
  LinkLayer.Proofs.World.Stopping
  ───────────────────────────────
  **A STOP IS FINAL, AND HAPPENS ONCE.**

  A node is stopped at one stroke, or part by part by the one who raised the
  flag, with other things in between.  `stopStage` says how far the stop has
  come, and whether each part was made in its turn.

    • `AtStage` — what holds of the manager at each stage; `AtStage.run`,
    • `lapsed_run` — a call that comes too late does not get to its dial,
    • `belated_run` — after the stop, whoever dials was about to do so before,
    • `refused_run` — a link that begins too late is refused and closed.

  `stop_is_final` puts this together for all runs.
-/
import LinkLayer.Proofs.World.Managing
import LinkLayer.Proofs.World.Reconfigure
import LinkLayer.Proofs.World.Unbegun

namespace LinkLayer

/-! ## §1. The stages of a stop. -/

/-- How far the stop of a node has come. -/
inductive StopStage where
  | running
  /-- The flag is up. -/
  | raised
  /-- The listeners are gone. -/
  | dropped
  /-- The transport was asked to stop. -/
  | over
  deriving Repr, DecidableEq

/-- The stage after an act; none if the act is a part of a stop that is not due.
Whoever stops a node that is stopped already does nothing. -/
def StopStage.next? {σ : Type} (stage : StopStage) : Act σ → Option StopStage
  | .stop => some (if stage = .running then .over else stage)
  | .raiseStop => some (if stage = .running then .raised else stage)
  | .dropListeners => if stage = .raised then some .dropped else none
  | .stopTransport => if stage = .dropped then some .over else none
  | _ => some stage

/-- The stage after several acts. -/
def stopStage {σ : Type} (acts : List (Act σ)) : Option StopStage :=
  acts.foldlM StopStage.next? .running

/-- An act is a stop, or a part of one. -/
def Act.stops {σ : Type} : Act σ → Bool
  | .stop | .raiseStop | .dropListeners | .stopTransport => true
  | _ => false

namespace World

variable {σ : Type} {T : Transport σ} {me : Identity} {w w' : World σ} {a : Act σ} {n t : Nat}
  {stage stage' : StopStage}

/-- What holds of a manager at a stage of its stop. -/
structure AtStage (w : World σ) (stage : StopStage) : Prop where
  flag : w.manager.isStopped = decide (stage ≠ .running)
  bare : stage = .dropped ∨ stage = .over → w.manager.listeners = []
  stops : w.manager.requests.count .stop = if stage = .over then 1 else 0

/-- On a stopped node, no act brings a listener where there is none. -/
theorem bare_act (T : Transport σ) (hw : w.Sound me) (hs : w.manager.isStopped = true)
    (hl : w.manager.listeners = []) (a : Act σ) : (w.act T a).manager.listeners = [] := by
  cases ha : a.unsettles with
  | false => exact List.sublist_nil.mp (hl ▸ (settled_act T hw ha).listeners)
  | true =>
      cases a with
      | listen spec =>
          exact (congrArg (·.2.listeners) (Manager.listen_of_stopped T hs spec)).trans hl
      | reconfigure config =>
          exact List.sublist_nil.mp (hl ▸ (Manager.reconfigure_of_stopped T hs config).2)
      | clock now => exact hl
      | _ => cases ha

/-- Other acts than stops do not stop the transport. -/
theorem Demands.count_stop {new : List Request} (h : Demands w a new) (ha : a.stops = false) :
    new.count .stop = 0 := by
  rw [List.count_eq_zero]
  cases h with
  | nothing => exact List.not_mem_nil
  | listens specs => simp
  | stop => cases ha
  | stopTransport => cases ha
  | dial => simp

/-- An act that is no part of a stop leaves the stage what it is. -/
theorem AtStage.aside (h : w.AtStage stage) (T : Transport σ) (hw : w.Sound me)
    (ha : a.stops = false) : (w.act T a).AtStage stage := by
  obtain ⟨new, hnew, hasks⟩ := demands_act T hw a
  have hraises : a.raises = false := by cases a <;> first | rfl | cases ha
  constructor
  · rw [isStopped_act T hw, hraises, Bool.or_false]
    exact h.flag
  · intro hstage
    refine bare_act T hw ?_ (h.bare hstage) a
    rw [h.flag]
    rcases hstage with rfl | rfl <;> rfl
  · rw [hnew, List.count_append, hasks.count_stop ha, h.stops]
    rfl

theorem AtStage.isStopped (h : w.AtStage stage) (hstage : stage ≠ .running) :
    w.manager.isStopped = true := h.flag.trans (decide_eq_true hstage)

/-- A stop at one stroke. -/
theorem AtStage.stop (h : w.AtStage stage) (T : Transport σ) :
    (w.act T .stop).AtStage (if stage = .running then .over else stage) := by
  by_cases hr : stage = .running
  · have hs : w.manager.isStopped = false := by rw [h.flag, hr]; rfl
    have hstop := Manager.stop_of_running T hs
    rw [if_pos hr]
    refine ⟨congrArg Node.isStopped hstop.toNode, fun _ => hstop.listeners, ?_⟩
    show (w.manager.stop T).2.requests.count .stop = 1
    rw [hstop.requests, List.count_append, h.stops, hr]
    rfl
  · have hsame : w.act T .stop = w :=
      congrArg (fun m => { w with manager := m.2 }) (Manager.stop_of_stopped T (h.isStopped hr))
    rw [if_neg hr, hsame]
    exact h

/-- The parts of a stop. -/
theorem AtStage.raiseStop (h : w.AtStage stage) (T : Transport σ) :
    (w.act T .raiseStop).AtStage (if stage = .running then .raised else stage) := by
  by_cases hr : stage = .running
  · rw [if_pos hr]
    exact ⟨rfl, fun hno => by simp at hno, h.stops.trans (by rw [hr]; rfl)⟩
  · rw [if_neg hr]
    exact ⟨(decide_eq_true hr).symm, h.bare, h.stops⟩

theorem AtStage.dropListeners (h : w.AtStage .raised) (T : Transport σ) :
    (w.act T .dropListeners).AtStage .dropped := by
  have hs := h.isStopped (by simp)
  have hsilent := Manager.silent_dropListeners w.manager
  have hact : w.act T .dropListeners = w.onManager (·.dropListeners) := if_pos hs
  rw [hact]
  exact ⟨(congrArg Node.isStopped hsilent.toNode).trans hs,
    fun _ => Manager.listeners_dropListeners _,
    (congrArg (List.count .stop) hsilent.requests).trans h.stops⟩

theorem AtStage.stopTransport (h : w.AtStage .dropped) (T : Transport σ) :
    (w.act T .stopTransport).AtStage .over := by
  have hs := h.isStopped (by simp)
  obtain ⟨-, hnode, hrequests, hlisteners⟩ := Manager.stopTransport_eq T w.manager
  have hact : w.act T .stopTransport = w.onManager fun m => (m.stopTransport T).2 := if_pos hs
  rw [hact]
  refine ⟨(congrArg Node.isStopped hnode).trans hs, fun _ => hlisteners.trans (h.bare (.inl rfl)),
    ?_⟩
  show (w.manager.stopTransport T).2.requests.count .stop = 1
  rw [hrequests, List.count_append, h.stops]
  rfl

/-- **Every act that is due takes the stop to its next stage.** -/
theorem AtStage.act (h : w.AtStage stage) (T : Transport σ) (hw : w.Sound me)
    (hnext : stage.next? a = some stage') : (w.act T a).AtStage stage' := by
  cases ha : a.stops with
  | false =>
      have hstage : stage' = stage := by
        cases a <;> first | exact (Option.some.inj hnext).symm | cases ha
      exact hstage ▸ h.aside T hw ha
  | true =>
      cases a with
      | stop =>
          cases Option.some.inj hnext
          exact h.stop T
      | raiseStop =>
          cases Option.some.inj hnext
          exact h.raiseStop T
      | dropListeners =>
          simp only [StopStage.next?, Option.ite_none_right_eq_some, Option.some.injEq] at hnext
          obtain ⟨rfl, rfl⟩ := hnext
          exact h.dropListeners T
      | stopTransport =>
          simp only [StopStage.next?, Option.ite_none_right_eq_some, Option.some.injEq] at hnext
          obtain ⟨rfl, rfl⟩ := hnext
          exact h.stopTransport T
      | _ => cases ha

/-- **A run keeps to the stages.** -/
theorem AtStage.run (h : w.AtStage stage) (T : Transport σ) (hw : w.Sound me)
    {acts : List (Act σ)} (hrun : acts.foldlM StopStage.next? stage = some stage') :
    (w.run T acts).AtStage stage' := by
  induction acts generalizing w stage with
  | nil =>
      cases hrun
      exact h
  | cons a rest ih =>
      rw [List.foldlM_cons] at hrun
      obtain ⟨next, hnext, hrest⟩ := Option.bind_eq_some_iff.mp hrun
      exact ih (h.act T hw hnext) ((act_change T hw a).sound hw) hrest

theorem atStage_start (me : Identity) (settings : Settings) (engine : Engine) (state : σ) :
    (start me settings engine state).AtStage .running where
  flag := rfl
  bare := fun h => by simp at h
  stops := rfl

/-! ## §2. Calls that come too late. -/

/-- What becomes of a call on a stopped node: it waits for its first move, was
refused by that, or was cancelled. -/
inductive Lapsed (t : Nat) (acts : List (Act σ)) : Activity → Prop
  | waits (target : CallTarget) : Lapsed t acts (.calling target)
  | refused : Lapsed t acts (.done (.failed .stopped))
  | cancelled : .cancel t ∈ acts → Lapsed t acts (.done .cancelled)

theorem Lapsed.append {acts : List (Act σ)} {activity : Activity} (h : Lapsed t acts activity)
    (more : List (Act σ)) : Lapsed t (acts ++ more) activity := by
  cases h with
  | waits target => exact .waits target
  | refused => exact .refused
  | cancelled hin => exact .cancelled (List.mem_append_left _ hin)

/-- A number that was given to a task is not given to a connection. -/
theorem Change.connection (hc : Change w a w') (ht : t < w.next) :
    w'.connection t = w.connection t ∧ w.next ≤ w'.next := by
  cases hc with
  | make => exact ⟨Function.update_of_ne (Nat.ne_of_lt ht) _ _, Nat.le_succ _⟩
  | spawn => exact ⟨rfl, Nat.le_succ _⟩
  | _ => exact ⟨rfl, Nat.le_refl _⟩

/-- **On a stopped node, a call goes on to nothing but its refusal.** -/
theorem Change.lapsed (hc : Change w a w') (hw : w.Sound me) (hs : w.manager.isStopped = true)
    (hcon : w.connection t = none) {origin : Origin} {activity : Activity} {acts : List (Act σ)}
    (ht : w.manager.tasks.find? t = some ⟨origin, activity⟩) (hl : Lapsed t acts activity) :
    ∃ activity', w'.manager.tasks.find? t = some ⟨origin, activity'⟩ ∧
      Lapsed t (acts ++ [a]) activity' := by
  have hsame : w'.manager.tasks.find? t = w.manager.tasks.find? t →
      ∃ activity', w'.manager.tasks.find? t = some ⟨origin, activity'⟩ ∧
        Lapsed t (acts ++ [a]) activity' := fun h => ⟨activity, h.trans ht, hl.append [a]⟩
  -- Whoever runs a handler is another task.
  have hother : ∀ {k : Nat} {o : Origin} {h : Handler},
      w.manager.tasks.find? k = some ⟨o, .handling h⟩ → t ≠ k := by
    rintro k o h hk rfl
    cases ht.symm.trans hk
    cases hl
  cases hc with
  | keep hm => exact hsame (congrArg (·.find? t) hm.tasks)
  | @take _ c k _ _ _ _ m _ hcw _ _ hor hm =>
      have hk : t ≠ k := by
        rintro rfl
        rcases hor with rfl | ⟨-, _, _, _, hdial⟩
        · cases hcon.symm.trans hcw
        · cases ht.symm.trans hdial
          cases hl
      exact hsame ((congrArg (·.find? t) hm.tasks).trans (Table.find?_put_ne _ _ hk))
  | @pop _ j inlet c queue _ hj hq =>
      have hk : t ≠ c.wire := by
        rintro rfl
        have hcw := (hw.queued j inlet hj c (by rw [hq]; exact List.mem_cons_self)).1
        cases hcon.symm.trans hcw
      exact hsame (Table.find?_put_ne _ _ hk)
  | spawn => exact hsame (Table.find?_put_ne _ _ (Nat.ne_of_lt (hw.tasks t _ ht).1))
  | @idle _ k o act act' m hi hk hm =>
      by_cases htk : t = k
      · subst htk
        cases ht.symm.trans hk
        have hput := (congrArg (·.find? t) hm.tasks).trans (Table.find?_put_self _ _ _)
        cases hi with
        | dials hrun => cases hrun.symm.trans hs
        | refused => exact ⟨_, hput, .refused⟩
        | fails => cases hl
        | cancelled => exact ⟨_, hput, .cancelled (by simp)⟩
      · exact hsame ((congrArg (·.find? t) hm.tasks).trans (Table.find?_put_ne _ _ htk))
  | move _ hk => exact hsame (Table.find?_put_ne _ _ (hother hk))
  | conclude hk => exact hsame (Table.find?_put_ne _ _ (hother hk))
  | cancel hk =>
      exact hsame ((Table.find?_put_ne _ _ (hother hk)).trans
        (Table.find?_put_ne _ _ (hother hk)))
  | _ => exact hsame rfl

theorem lapsed_run (T : Transport σ) (hw : w.Sound me) (hs : w.manager.isStopped = true)
    (hcon : w.connection t = none) {origin : Origin} {activity : Activity}
    {before after : List (Act σ)} (ht : w.manager.tasks.find? t = some ⟨origin, activity⟩)
    (hl : Lapsed t before activity) :
    ∃ activity', (w.run T after).manager.tasks.find? t = some ⟨origin, activity'⟩ ∧
      Lapsed t (before ++ after) activity' := by
  induction after generalizing w before activity with
  | nil => exact ⟨activity, ht, (List.append_nil before).symm ▸ hl⟩
  | cons a rest ih =>
      have hc := act_change T hw a
      obtain ⟨activity₁, ht₁, hl₁⟩ := hc.lapsed hw hs hcon ht hl
      have hcon₁ := (hc.connection (hw.tasks t _ ht).1).1.trans hcon
      have hrest := ih (hc.sound hw) (hc.isStopped hs) hcon₁ ht₁ hl₁
      rwa [List.append_assoc] at hrest

/-- The first move of a call on a stopped node ends it. -/
theorem act_task_of_calling (T : Transport σ) (hs : w.manager.isStopped = true) {origin : Origin}
    {target : CallTarget} (ht : w.manager.tasks.find? t = some ⟨origin, .calling target⟩) :
    w.act T (.task t) = w.onManager (·.conclude t origin (.failed .stopped)) := by
  show w.taskMove T t = _
  have hnone : w.newDeeds t = [] := newDeeds_of_none (handler?_of_find? ht)
  simp [taskMove, Manager.stepTask, Manager.startCall, dialled?, ht, hs, hnone, onManager]

/-! ## §3. Dials on their way. -/

/-- **On a stopped node, whoever dials was about to do so before.** -/
theorem Change.dialling (hc : Change w a w') (hs : w.manager.isStopped = true) {task : Task}
    (hd : w'.Dials t) (ht : w'.manager.tasks.find? t = some task) :
    w.manager.tasks.find? t = some task := by
  obtain ⟨origin, target, options, hd⟩ := hd
  cases ht.symm.trans hd
  -- No act puts a dial where there was none.
  have hput : ∀ {tasks : Table Task} {k : Nat} {task' : Task},
      (∀ o d x, task' ≠ ⟨o, .dialling d x⟩) →
      (tasks.put k task').find? t = some ⟨origin, .dialling target options⟩ →
      tasks.find? t = some ⟨origin, .dialling target options⟩ := by
    intro tasks k task' hne hfind
    rw [Table.find?_put] at hfind
    split at hfind
    · cases hfind
      exact absurd rfl (hne _ _ _)
    · exact hfind
  cases hc with
  | keep hm => exact hm.tasks ▸ ht
  | take _ _ _ _ _ hm => exact hput (by simp) ((congrArg (·.find? t) hm.tasks).symm.trans ht)
  | pop => exact hput (by simp) ht
  | spawn => exact hput (by simp) ht
  | idle hi _ hm =>
      refine hput ?_ ((congrArg (·.find? t) hm.tasks).symm.trans ht)
      cases hi with
      | dials hrun => cases hrun.symm.trans hs
      | _ => simp
  | move => exact hput (by simp) ht
  | conclude => exact hput (by simp) ht
  | cancel => exact hput (by simp) (hput (by simp) ht)
  | _ => exact ht

/-- What is asked of the transport after a stop: that it stops, and dials that
were on their way. -/
def Belated (w : World σ) (request : Request) : Prop :=
  request = .stop ∨ ∃ t origin target options, request = .dial target ∧
    w.manager.tasks.find? t = some ⟨origin, .dialling target options⟩

theorem belated_run (T : Transport σ) (hw : w.Sound me) (hs : w.manager.isStopped = true)
    (acts : List (Act σ)) :
    ∃ new, (w.run T acts).manager.requests = w.manager.requests ++ new ∧
      ∀ request ∈ new, w.Belated request := by
  induction acts generalizing w with
  | nil => exact ⟨[], (List.append_nil _).symm, fun _ h => absurd h List.not_mem_nil⟩
  | cons a rest ih =>
      have hc := act_change T hw a
      obtain ⟨new, hnew, hasks⟩ := demands_act T hw a
      obtain ⟨later, hlater, hbelated⟩ := ih (hc.sound hw) (hc.isStopped hs)
      refine ⟨new ++ later, ?_, fun request hin => ?_⟩
      · show ((w.act T a).run T rest).manager.requests = _
        rw [hlater, hnew, List.append_assoc]
      · rcases List.mem_append.mp hin with hnow | hthen
        · cases hasks with
          | nothing => cases hnow
          | listens _ hrun => cases hrun.symm.trans hs
          | stop hrun => cases hrun.symm.trans hs
          | stopTransport => exact .inl (List.mem_singleton.mp hnow)
          | dial ht => exact .inr ⟨_, _, _, _, List.mem_singleton.mp hnow, ht⟩
        · rcases hbelated request hthen with hstop | ⟨t, o, d, x, hdial, ht⟩
          · exact .inl hstop
          · exact .inr ⟨t, o, d, x, hdial, hc.dialling hs ⟨o, d, x, ht⟩ ht⟩

/-! ## §4. Links that begin too late. -/

/-- A link that begins on a stopped node: it waits for its first move, which
refuses it; it closes its connection; or it is over, and has closed it. -/
inductive Refused (T : Transport σ) (w : World σ) (acts : List (Act σ)) (n t : Nat) : Prop
  | waits : (w.run T acts).result? n = none →
      ((w.run T acts).act T (.task t)).result? n = some (.failed .stopped) →
      w.strokes T n acts = [] → Refused T w acts n t
  | closes {due : Nat} : (w.run T acts).outcome? n = none →
      (w.run T acts).result? n = some (.failed .stopped) →
      ((w.run T acts).run T [.clock due, .task t]).outcome? n = some (.failed .stopped) →
      w.strokes T n acts = [] → Refused T w acts n t
  | stopped : (w.run T acts).outcome? n = some (.failed .stopped) →
      w.strokes T n acts = [.shutDown, .drop] → Refused T w acts n t
  | cancelled : .cancel t ∈ acts → (w.run T acts).outcome? n = some .cancelled →
      w.strokes T n acts = [.drop] → Refused T w acts n t

/-- The first move of a handler on a stopped node refuses its link. -/
theorem refused_of_fresh (T : Transport σ) (hw : w.Sound me) (hs : w.manager.isStopped = true)
    (hp : w.place n = .taken t) {h : Handler} (hh : w.handler? t = some h)
    (hfresh : h.phase = .fresh) : (w.act T (.task t)).result? n = some (.failed .stopped) := by
  obtain ⟨_, wire, -, hwire, -, -⟩ := hw.tends hh
  have hstep : h.step w.manager.toNode wire = some (h.begin w.manager.toNode wire) := by
    rw [Handler.step, hfresh]
  have hmoment := act_task T hw hh hwire hstep
  have hc := act_change T hw (.task t)
  rw [result_of_handler (hc.place hw hp) hmoment.next]
  have hturn := hmoment.turn
  generalize h.begin w.manager.toNode wire = move at hturn
  cases hturn with
  | refuse => rfl
  | begin _ hrun => cases hrun.symm.trans hs
  | giveUp hg =>
      rw [hfresh] at hg
      cases hg
  | _ => simp_all

/-- A result is that of a cancellation only if the task was cancelled. -/
theorem cancel_mem (T : Transport σ) (hw : w.Sound me) (hn : ∀ s, w.place n ≠ .taken s)
    {acts : List (Act σ)} (hp : (w.run T acts).place n = .taken t)
    (hr : (w.run T acts).result? n = some .cancelled) : .cancel t ∈ acts := by
  obtain ⟨before, a, after, h, rfl, -, hh, rfl, hfresh⟩ := taken_run T hw hn hp
  have hw₁ := hw.run T (before ++ [a])
  have hp₁ := hw₁.holders t h hh
  rw [List.append_cons, run_append] at hr
  -- A fresh handler has no result yet.
  rcases cancelled_run T hw₁ hp₁ hr with hnow | hin
  · rw [result_of_handler hp₁ hh, Handler.result?, hfresh] at hnow
    cases hnow
  · simp [hin]

/-- **A link that has not begun when the node is stopped is refused.** -/
theorem refused_run (T : Transport σ) (me : Identity) (settings : Settings) (engine : Engine)
    (state : σ) (acts : List (Act σ)) {n t : Nat}
    (hs : ((start me settings engine state).run T acts).manager.isStopped = true)
    (hp : ((start me settings engine state).run T acts).place n = .taken t)
    (hblank : ((start me settings engine state).run T acts).deedsOf n = []) :
    Refused T (start me settings engine state) acts n t := by
  have hstart := sound_start me settings engine state
  have hw := hstart.run T acts
  have hfree : ∀ s, (start me settings engine state).place n ≠ .taken s := fun s h => by cases h
  have hdormant := dormant_run T me settings engine state acts n hblank
  obtain ⟨⟨origin, activity⟩, ht⟩ := hw.task_of_taken hp
  have hunbegun := hdormant.taken t _ hp ht
  have hresult := result?_of_place hp ht
  -- Whoever has an outcome has one of two, and closed the connection accordingly.
  have hover : ∀ {outcome : Outcome},
      ((start me settings engine state).run T acts).outcome? n = some outcome →
      ((start me settings engine state).run T acts).result? n = some outcome →
      Shut outcome ((start me settings engine state).strokes T n acts) →
      Refused T (start me settings engine state) acts n t := by
    intro outcome ho hr hshut
    generalize hlog : (start me settings engine state).strokes T n acts = log at hshut
    cases hshut with
    | stopped => exact .stopped ho hlog
    | cancelled => exact .cancelled (cancel_mem T hstart hfree hp hr) ho hlog
  cases hunbegun with
  | @fresh h hphase hlog =>
      have hh := handler?_of_find? ht
      refine .waits (hresult.trans ?_) (refused_of_fresh T hw hs hp hh hphase) hlog
      show h.result? = none
      rw [Handler.result?, hphase]
  | @closing h due hphase hlog =>
      have hh := handler?_of_find? ht
      have hn := (hw.number_of_place hp hh).1
      have hr : h.result? = some (.failed .stopped) := by rw [Handler.result?, hphase]
      have ho := hw.outcome_of_handler hh
      rw [hn, Handler.outcome?, hphase] at ho
      rcases hw.ends T hp (hresult.trans hr) with hend | ⟨due, hend⟩
      · cases ho.symm.trans hend
      · exact .closes ho (hresult.trans hr) hend hlog
  | @ended h outcome hphase hshut =>
      have hh := handler?_of_find? ht
      have hn := (hw.number_of_place hp hh).1
      have ho := hw.outcome_of_handler hh
      rw [hn, Handler.outcome?_eq_some.mpr hphase] at ho
      exact hover ho (hresult.trans (Handler.result_of_outcome
        (Handler.outcome?_eq_some.mpr hphase))) hshut
  | done hshut => exact hover (by simp [outcome?, hp, ht]) hresult hshut

/-! ## §5. All runs. -/

/-- **The stop, as an act, leaves the links alone**, and so does each of its
parts. -/
theorem undisturbed_of_stops (T : Transport σ) (hw : w.Sound me) (ha : a.stops = true) :
    w.Undisturbed (w.act T a) := by
  have hsame : w.Undisturbed w := hw.undisturbed (.refl w.manager) rfl
  cases a with
  | stop =>
      cases hs : w.manager.isStopped with
      | true =>
          have hact : w.act T .stop = w :=
            congrArg (fun m => { w with manager := m.2 }) (Manager.stop_of_stopped T hs)
          exact hact.symm ▸ hsame
      | false =>
          exact hw.undisturbed (Manager.keeps_stop T _) (Manager.stop_of_running T hs).toNode
  | raiseStop =>
      have hnode : w.manager.raiseStop.toNode = { w.manager.toNode with isStopped := true } := rfl
      exact hw.undisturbed (Manager.keeps_raiseStop _) hnode
  | dropListeners =>
      show w.Undisturbed (if w.manager.isStopped then _ else _)
      split
      · exact hw.undisturbed (Manager.keeps_dropListeners _)
          (Manager.silent_dropListeners _).toNode
      · exact hsame
  | stopTransport =>
      show w.Undisturbed (if w.manager.isStopped then _ else _)
      split
      · exact hw.undisturbed (Manager.keeps_stopTransport T _) (Manager.stopTransport_eq T _).2.1
      · exact hsame
  | _ => cases ha

/-- What holds of a node that was found stopped after some acts, in `w`, after
some more acts, in `v`. -/
structure Final (T : Transport σ) (w₀ w v : World σ) (before after : List (Act σ)) : Prop where
  /-- The flag stays up, -/
  flag : v.manager.isStopped = true
  /-- and whatever is asked of the node is answered by it. -/
  stop : v.manager.stop T = (.ok (), v.manager)
  listen : ∀ spec, v.manager.listen T spec = (.error .stopped, v.manager)
  call : ∀ k uri source, v.manager.call k uri source =
    match CallTarget.parse uri source with
    | .error e => (.error e, v.manager)
    | .ok _ => (.error .stopped, v.manager)
  reconfigure : ∀ config, (v.manager.reconfigure T config).2.requests = v.manager.requests
  /-- Once there is no listener, there is none, and nothing is served. -/
  bare : w.manager.listeners = [] → v.manager.listeners = [] ∧
    ∀ j inlet, v.manager.inlets.find? j = some inlet → inlet.isServed = false
  /-- The transport is asked to stop, or to make a dial that was on its way. -/
  requests : ∃ new, v.manager.requests = w.manager.requests ++ new ∧
    ∀ request ∈ new, w.Belated request
  /-- A connect that begins now comes to nothing but its refusal, -/
  connect : ∀ target, ∃ activity,
    (w.run T (.connect target :: after)).manager.tasks.find? w.next = some ⟨.caller, activity⟩ ∧
      Lapsed w.next after activity
  /-- and is refused by its first move. -/
  refusal : ∀ t origin target, v.manager.tasks.find? t = some ⟨origin, .calling target⟩ →
    v.act T (.task t) = v.onManager (·.conclude t origin (.failed .stopped))
  /-- A link that had not begun by then does nothing, sends nothing, is not
  registered, and is refused and closed. -/
  links : ∀ n, ¬ w.HasBegun n → v.deedsOf n = [] ∧ v.sentAt n = [] ∧
    (∀ e ∈ v.manager.registry.entries, e.id ≠ n) ∧
    ∀ t, v.place n = .taken t → Refused T w₀ (before ++ after) n t

/-- A link without a deed is not registered. -/
theorem Sound.not_entry (hw : w.Sound me) (hblank : w.deedsOf n = []) :
    ∀ e ∈ w.manager.registry.entries, e.id ≠ n := by
  rintro e he rfl
  obtain ⟨t, h, hh, hentry⟩ := (hw.entries e).mp he
  obtain ⟨_, _, -, -, -, htends⟩ := hw.tends hh
  have hc := htends.chronicle
  rw [← hw.entry_id hh hentry, hblank] at hc
  unfold Handler.Chronicle at hc
  unfold Handler.entry? at hentry
  cases hp : h.phase <;> simp_all [Handler.askedLog, Handler.servedLog, Handler.readLog]

theorem final_run (T : Transport σ) (me : Identity) (settings : Settings) (engine : Engine)
    (state : σ) (before after : List (Act σ)) :
    let w₀ := start me settings engine state
    let w := w₀.run T before
    w.manager.isStopped = true → Final T w₀ w (w.run T after) before after := by
  intro w₀ w hs
  have hw₀ : w₀.Sound me := sound_start me settings engine state
  have hw : w.Sound me := hw₀.run T before
  have hv : (w.run T after).Sound me := hw.run T after
  have hvs : (w.run T after).manager.isStopped = true := isStopped_run hw hs after
  have hboth : w.run T after = w₀.run T (before ++ after) := (run_append T w₀ before after).symm
  constructor
  case flag => exact hvs
  case stop => exact Manager.stop_of_stopped T hvs
  case listen => exact Manager.listen_of_stopped T hvs
  case call => exact Manager.call_of_stopped hvs
  case reconfigure => exact fun config => (Manager.reconfigure_of_stopped T hvs config).1
  case bare =>
    intro hl
    have hbare : (w.run T after).manager.listeners = [] :=
      (hw.run_keeps T (p := fun w => w.manager.isStopped = true ∧ w.manager.listeners = [])
        (fun hw h => ⟨(act_change T hw _).isStopped h.1, bare_act T hw h.1 h.2 _⟩) ⟨hs, hl⟩
        after).2
    have hstaffed : (w.run T after).manager.Staffed :=
      hboth ▸ staffed_run T me settings engine state (before ++ after)
    exact ⟨hbare, fun j inlet hj => hstaffed.unserved hbare hj⟩
  case requests => exact belated_run T hw hs after
  case connect =>
    intro target
    have hc := act_change T hw (.connect target)
    have hwaits : Lapsed w.next ([] : List (Act σ)) (.calling target) := .waits target
    exact lapsed_run T (hc.sound hw) (hc.isStopped hs) (hw.fresh w.next (Nat.le_refl _)).1
      (Table.find?_put_self _ _ _) hwaits
  case refusal => exact fun t origin target ht => act_task_of_calling T hvs ht
  case links =>
    intro n hn
    have hblank : (w.run T after).deedsOf n = [] := by
      by_contra hne
      obtain ⟨d, hd⟩ := List.exists_mem_of_ne_nil _ hne
      exact hn (began_before_stop hw hs (hv.hasBegun hd))
    refine ⟨hblank, ?_, hv.not_entry hblank, fun t hp => ?_⟩
    · exact hboth ▸ silent_run T me settings engine state (before ++ after) n (hboth ▸ hblank)
    · exact refused_run T me settings engine state (before ++ after) (hboth ▸ hvs) (hboth ▸ hp)
        (hboth ▸ hblank)

/-- **A stop is final, and happens once.**  In every run in which the parts of
a stop come in their turn,

  • the flag is up as soon as the stop has begun, and is not lowered again,
  • the transport is asked to stop once, and not before the stop gets there,
  • there is no listener once they were dropped, and no queue is served,
  • the first stop returns what the transport answers; the others do nothing,
  • no part of a stop does anything to a link,
  • what the node does from then on is laid down in `Final`. -/
theorem stop_is_final (T : Transport σ) (me : Identity) (settings : Settings) (engine : Engine)
    (state : σ) (acts : List (Act σ)) (stage : StopStage) (hstage : stopStage acts = some stage) :
    let w₀ := start me settings engine state
    let w := w₀.run T acts
    (w.manager.isStopped = true ↔ stage ≠ .running) ∧
    w.manager.requests.count .stop = (if stage = .over then 1 else 0) ∧
    (stage = .dropped ∨ stage = .over → w.manager.listeners = []) ∧
    (stage = .running → w.manager.Stops T (w.manager.stop T)) ∧
    (stage = .dropped → (w.manager.stopTransport T).1 = T.farewell w.manager.transport) ∧
    (∀ a, a.stops = true → w.Undisturbed (w.act T a)) ∧
    (stage ≠ .running → ∀ after, Final T w₀ w (w.run T after) acts after) := by
  intro w₀ w
  have hw : w.Sound me := sound_run T me settings engine state acts
  have hat : w.AtStage stage :=
    (atStage_start me settings engine state).run T (sound_start me settings engine state) hstage
  have hflag : w.manager.isStopped = true ↔ stage ≠ .running := by
    rw [hat.flag]
    exact decide_eq_true_iff
  refine ⟨hflag, hat.stops, hat.bare, fun hr => ?_, fun _ => ?_, fun a ha => ?_, fun hr after => ?_⟩
  · exact Manager.stop_of_running T (by rw [hat.flag, hr]; rfl)
  · exact (Manager.stopTransport_eq T _).1
  · exact undisturbed_of_stops T hw ha
  · exact final_run T me settings engine state acts after (hflag.mpr hr)

/-- A node whose transport cannot stop. -/
def stubbornNode : World Script :=
  start (.replicate 0xaa) {} .collect { stopError := some (.io "busy") }

/-- The node is stopped part by part.  In between a connection is accepted, its
handler makes its moves, and somebody else stops the node too. -/
def stoppedInParts : List (Act Script) :=
  [.listen (somePlace 1), .make .tcp "peer" "near" "far" 1024 {}, .raiseStop, .accept 0 false,
    .stop, .task 0, .dropListeners, .task 0, .stopTransport]

/-- The transport was asked to stop once, and the link is refused and closed. -/
theorem stop_is_final_inParts :
    stopStage stoppedInParts = some .over ∧
    (stubbornNode.run Script.transport stoppedInParts).manager.requests =
      [.listen (somePlace 1), .stop] ∧
    Final Script.transport stubbornNode (stubbornNode.run Script.transport stoppedInParts)
      (stubbornNode.run Script.transport stoppedInParts) stoppedInParts [] ∧
    stubbornNode.strokes Script.transport 0 stoppedInParts = [.shutDown, .drop] := by
  have hstage : stopStage stoppedInParts = some .over := by decide
  have h := stop_is_final Script.transport (.replicate 0xaa) {} .collect
    { stopError := some (.io "busy") } stoppedInParts .over hstage
  exact ⟨hstage, by decide +kernel, h.2.2.2.2.2.2 (by decide) [], by decide +kernel⟩

end World

end LinkLayer

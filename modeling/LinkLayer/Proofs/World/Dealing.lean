/-
  LinkLayer.Proofs.World.Dealing
  ──────────────────────────────
  **WHAT AN ACT DOES WITH ONE CONNECTION.**

  A connection that a task has is changed by four kinds of acts only: the next
  move of the task, an act of the task's engine, the cancellation of the task,
  and the acts of the remote end.

    • `Change.aside` — all other acts leave the connection's wire, its record
      and its task alone,
    • `Deals`, `act_deals` — what those four do, case by case,
    • `handler?_act` — so the connection's handler moves, or stays as it is,
    • `taken_run` — and the moment at which a task gets a connection, with a
      handler that did nothing yet.
-/
import LinkLayer.Proofs.World.Flow
import LinkLayer.Proofs.World.History

namespace LinkLayer.World

variable {σ : Type} {T : Transport σ} {me : Identity} {w w' : World σ} {a : Act σ} {n t : Nat}

/-! ## §1. Acts of others. -/

/-- An act is one of a task, or of the remote end of a connection. -/
def Concerns (n t : Nat) (a : Act σ) : Prop :=
  a = .task t ∨ a = .cancel t ∨ (∃ what, a = .tunnel t what) ∨ ∃ what, a = .remote n what

/-- A connection that a task has is in no queue. -/
theorem Sound.not_queued (hw : w.Sound me) (hp : w.place n = .taken t) :
    ¬ w.manager.Queued n := by
  rintro ⟨j, inlet, hj, hin⟩
  obtain ⟨c, hc, rfl⟩ := List.mem_map.mp hin
  have hq := (hw.queued j inlet hj c hc).2
  rw [hp] at hq
  cases hq

/-- A task that has a connection is there. -/
theorem Sound.task_of_taken (hw : w.Sound me) (hp : w.place n = .taken t) :
    ∃ task, w.manager.tasks.find? t = some task := by
  obtain ⟨_, _, task, ht, -, -⟩ := hw.task_of_place hp
  exact ⟨task, ht⟩

/-- **Acts of others leave a connection and its task alone.** -/
theorem Change.aside (hc : Change w a w') (hw : w.Sound me) (hp : w.place n = .taken t)
    (ha : ¬ Concerns n t a) :
    w'.manager.tasks.find? t = w.manager.tasks.find? t ∧ w'.wire? n = w.wire? n ∧
      w'.deedsOf n = w.deedsOf n := by
  obtain ⟨task, ht⟩ := hw.task_of_taken hp
  -- Whoever else has a handler runs it on another connection.
  have hother : ∀ {s : Nat} {origin : Origin} {h : Handler}, s ≠ t →
      w.manager.tasks.find? s = some ⟨origin, .handling h⟩ → n ≠ h.number := by
    intro s origin h hs hf hn
    exact hs (hw.task_of_number hp (handler?_of_find? hf) hn.symm)
  cases hc with
  | keep hm =>
      rw [hm.tasks]
      exact ⟨rfl, hm.spared n (hw.not_queued hp), rfl⟩
  | remote k what =>
      have hk : n ≠ k := by
        rintro rfl
        exact ha (.inr (.inr (.inr ⟨what, rfl⟩)))
      exact ⟨rfl, (wire?_onWire w k n what.apply).trans (if_neg hk), rfl⟩
  | make kind name source remote capacity faults =>
      have hk : n ≠ w.next := by
        rintro rfl
        rw [(hw.fresh w.next (Nat.le_refl _)).2] at hp
        cases hp
      exact ⟨rfl, Table.find?_put_ne _ _ hk, rfl⟩
  | @discard _ c hl hcon =>
      have hk : n ≠ c.wire := by
        rintro rfl
        rw [hl] at hp
        cases hp
      exact ⟨rfl, (wire?_onWire w _ n Wire.drop).trans (if_neg hk), rfl⟩
  | enqueue => exact ⟨rfl, rfl, rfl⟩
  | @take _ c s origin incoming forced options m hl hcon hfree hlt hnone hm =>
      have hs : t ≠ s := fun he => hfree n (he ▸ hp)
      refine ⟨?_, congrArg (Table.find? · n) hm.wires, rfl⟩
      show m.tasks.find? t = _
      rw [hm.tasks]
      exact Table.find?_put_ne _ _ hs
  | @pop _ j inlet c queue _ hj hq =>
      obtain ⟨hcon, hl⟩ := hw.queued j inlet hj c (by rw [hq]; exact List.mem_cons_self)
      have hs : t ≠ c.wire := by
        rintro rfl
        rw [hw.no_task hcon (by rw [hl]; simp)] at ht
        cases ht
      exact ⟨Table.find?_put_ne _ _ hs, rfl, rfl⟩
  | spawn => exact ⟨Table.find?_put_ne _ _ (Nat.ne_of_lt (hw.tasks t task ht).1), rfl, rfl⟩
  | @idle _ s origin activity activity' m hi hs hm =>
      have hne : t ≠ s := by
        rintro rfl
        rcases hi.act with rfl | rfl
        · exact ha (.inl rfl)
        · exact ha (.inr (.inl rfl))
      refine ⟨?_, congrArg (Table.find? · n) hm.wires, rfl⟩
      show m.tasks.find? t = _
      rw [hm.tasks]
      exact Table.find?_put_ne _ _ hne
  | @move _ s origin h wire move hmoves hs hwire hturn =>
      have hne : t ≠ s := by
        rintro rfl
        rcases hmoves with rfl | ⟨⟨what, rfl⟩, -⟩
        · exact ha (.inl rfl)
        · exact ha (.inr (.inr (.inl ⟨what, rfl⟩)))
      have hn := hother hne.symm hs
      exact ⟨Table.find?_put_ne _ _ hne, Table.find?_put_ne _ _ hn,
        (deedsOf_append w _ _ n _).trans (if_neg hn)⟩
  | @conclude s origin h outcome hs ho =>
      have hne : t ≠ s := by
        rintro rfl
        exact ha (.inl rfl)
      exact ⟨Table.find?_put_ne _ _ hne, rfl, rfl⟩
  | @cancel s origin h wire hs hwire hbusy =>
      have hne : t ≠ s := by
        rintro rfl
        exact ha (.inr (.inl rfl))
      refine ⟨?_, Table.find?_put_ne _ _ (hother hne.symm hs), rfl⟩
      exact (Table.find?_put_ne _ _ hne).trans (Table.find?_put_ne _ _ hne)

/-! ## §2. Acts of the task that has the connection. -/

/-- An act brings about a move of a handler: by the handler itself, or by its
engine. -/
inductive Brings (node : Node) (wire : Wire) (h : Handler) (t : Nat) :
    Act σ → Handler.Move → Prop
  | task {move} : h.step node wire = some move → Brings node wire h t (.task t) move
  | tunnel {what entry session move} : h.phase = .tunnelling entry session →
      h.afterEngine node wire entry (EngineAct.progress session wire what) = some move →
      Brings node wire h t (.tunnel t what) move

theorem Brings.turn {node : Node} {wire : Wire} {h : Handler} {move : Handler.Move}
    (hb : Brings node wire h t a move) (hs : h.Staged) : h.Turn node wire move := by
  cases hb with
  | task hmove => exact Handler.step_turn hs hmove
  | tunnel hp hmove => exact Handler.afterEngine_turn hp (plausible_progress _ _ _) hmove

/-- An act cannot do anything with a handler: there is no move to make, or no
engine to act, or the handler is between two points at which it waits. -/
inductive Rests (node : Node) (wire : Wire) (h : Handler) (t : Nat) : Act σ → Prop
  | task : h.outcome? = none → h.step node wire = none → Rests node wire h t (.task t)
  | tunnel {what} : Rests node wire h t (.tunnel t what)
  | cancel : h.isBusy = true → Rests node wire h t (.cancel t)

/-- What an act does with a connection that a task has. -/
inductive Deals (w : World σ) (n t : Nat) : Act σ → World σ → Prop
  | aside {a : Act σ} {w' : World σ} : ¬ Concerns n t a →
      w'.manager.tasks.find? t = w.manager.tasks.find? t → w'.wire? n = w.wire? n →
      w'.deedsOf n = w.deedsOf n → Deals w n t a w'
  | remote (what : RemoteAct) :
      Deals w n t (.remote n what) (w.onManager (·.onWire n what.apply))
  | rest {a : Act σ} {origin h wire} : w.manager.tasks.find? t = some ⟨origin, .handling h⟩ →
      h.number = n → w.wire? n = some wire → Rests w.manager.toNode wire h t a →
      Deals w n t a w
  | move {a : Act σ} {origin h wire move} : w.manager.tasks.find? t = some ⟨origin, .handling h⟩ →
      h.number = n → w.wire? n = some wire → Brings w.manager.toNode wire h t a move →
      Deals w n t a
        { w with
          manager := w.manager.applyMove t origin n move
          deeds := w.deeds ++ (h.deeds w.manager.toNode move).map (n, ·) }
  | conclude {origin h outcome} : w.manager.tasks.find? t = some ⟨origin, .handling h⟩ →
      h.number = n → h.outcome? = some outcome →
      Deals w n t (.task t) (w.onManager (·.conclude t origin outcome))
  | cancel {origin h wire} : w.manager.tasks.find? t = some ⟨origin, .handling h⟩ →
      h.number = n → w.wire? n = some wire → h.isBusy = false →
      Deals w n t (.cancel t)
        (w.onManager fun m =>
          (m.applyMove t origin n (h.cancel m.toNode wire)).conclude t origin
            ((h.cancel m.toNode wire).handler.outcome?.getD .cancelled))
  | done {a : Act σ} {origin outcome} : w.manager.tasks.find? t = some ⟨origin, .done outcome⟩ →
      a = .task t ∨ a = .cancel t ∨ (∃ what, a = .tunnel t what) → Deals w n t a w

/-- A task whose handler has ended ends with its next move. -/
theorem act_task_of_outcome (T : Transport σ) {origin : Origin} {h : Handler} {outcome : Outcome}
    (ht : w.manager.tasks.find? t = some ⟨origin, .handling h⟩)
    (ho : h.outcome? = some outcome) :
    w.act T (.task t) = w.onManager (·.conclude t origin outcome) := by
  have hh : w.handler? t = some h := handler?_of_find? ht
  -- A handler that has ended makes no move, so nothing goes on record.
  have hdeeds : w.newDeeds t = [] := by
    have hstep : ∀ wire, h.step w.manager.toNode wire = none := by
      intro wire
      rw [Handler.step, Handler.outcome?_eq_some.mp ho]
    unfold newDeeds
    rw [hh]
    cases hwire : w.wire? h.number <;> simp [hwire, hstep]
  show w.taskMove T t = _
  simp [taskMove, Manager.stepTask, dialled?, hdeeds, Manager.stepHandler, ht, ho, onManager]

/-- A task whose handler has to wait does nothing. -/
theorem act_task_of_waits (T : Transport σ) {origin : Origin} {h : Handler} {wire : Wire}
    (ht : w.manager.tasks.find? t = some ⟨origin, .handling h⟩)
    (hwire : w.wire? h.number = some wire) (ho : h.outcome? = none)
    (hmove : h.step w.manager.toNode wire = none) : w.act T (.task t) = w := by
  have hfind : w.manager.wires.find? h.number = some wire := hwire
  show w.taskMove T t = _
  simp [taskMove, Manager.stepTask, Manager.stepHandler, ht, ho, hfind, hmove]

/-- What the engine of a task makes of the world. -/
theorem act_tunnel_eq (T : Transport σ) {origin : Origin} {h : Handler} {wire : Wire}
    (ht : w.manager.tasks.find? t = some ⟨origin, .handling h⟩)
    (hwire : w.wire? h.number = some wire) (what : EngineAct) :
    w.act T (.tunnel t what) =
      match h.phase with
      | .tunnelling entry session =>
          match h.afterEngine w.manager.toNode wire entry (what.progress session wire) with
          | none => w
          | some move => w.onManager (·.applyMove t origin h.number move)
      | _ => w := by
  have hact : w.act T (.tunnel t what) = w.engineMove t what := rfl
  rw [hact]
  unfold engineMove
  rw [ht]
  dsimp only
  rw [hwire]
  cases h.phase <;> rfl

/-- A handler is cancelled where it waits, and only there. -/
theorem act_cancel_eq (T : Transport σ) {origin : Origin} {h : Handler} {wire : Wire}
    (ht : w.manager.tasks.find? t = some ⟨origin, .handling h⟩)
    (hwire : w.wire? h.number = some wire) :
    w.act T (.cancel t) =
      if h.isBusy then w
      else w.onManager fun m =>
        (m.applyMove t origin h.number (h.cancel m.toNode wire)).conclude t origin
          ((h.cancel m.toNode wire).handler.outcome?.getD .cancelled) := by
  have hh : w.handler? t = some h := handler?_of_find? ht
  have hfind : w.manager.wires.find? h.number = some wire := hwire
  show w.cancel t = _
  unfold World.cancel
  rw [hh, Option.any_some]
  simp only [onManager, Manager.cancel, ht, hfind]

/-- What a task that runs a handler does with its next move. -/
theorem task_deals (T : Transport σ) {origin : Origin} {h : Handler}
    {wire : Wire} (ht : w.manager.tasks.find? t = some ⟨origin, .handling h⟩)
    (hn : h.number = n) (hwire : w.wire? n = some wire) :
    Deals w n t (.task t) (w.act T (.task t)) := by
  have hwire' : w.wire? h.number = some wire := hn.symm ▸ hwire
  cases ho : h.outcome? with
  | some outcome =>
      rw [act_task_of_outcome T ht ho]
      exact .conclude ht hn ho
  | none =>
      cases hmove : h.step w.manager.toNode wire with
      | none =>
          rw [act_task_of_waits T ht hwire' ho hmove]
          exact .rest ht hn hwire (.task ho hmove)
      | some move =>
          rw [act_task_eq T ht hwire' ho hmove, hn]
          exact .move ht hn hwire (.task hmove)

/-- What the engine of a task does. -/
theorem tunnel_deals (T : Transport σ) {origin : Origin} {h : Handler}
    {wire : Wire} (ht : w.manager.tasks.find? t = some ⟨origin, .handling h⟩)
    (hn : h.number = n) (hwire : w.wire? n = some wire) (what : EngineAct) :
    Deals w n t (.tunnel t what) (w.act T (.tunnel t what)) := by
  rw [act_tunnel_eq T ht (hn.symm ▸ hwire) what]
  cases hp : h.phase with
  | tunnelling entry session =>
      dsimp only
      cases hmove : h.afterEngine w.manager.toNode wire entry (what.progress session wire) with
      | none => exact .rest ht hn hwire .tunnel
      | some move =>
          -- What an engine does is not put on record.
          have hmoves := Deals.move ht hn hwire (.tunnel hp hmove)
          rw [deeds_afterEngine hp hmove, List.map_nil, List.append_nil] at hmoves
          rw [hn]
          exact hmoves
  | _ => exact .rest ht hn hwire .tunnel

/-- What the cancellation of a task does. -/
theorem cancel_deals (T : Transport σ) {origin : Origin} {h : Handler}
    {wire : Wire} (ht : w.manager.tasks.find? t = some ⟨origin, .handling h⟩)
    (hn : h.number = n) (hwire : w.wire? n = some wire) :
    Deals w n t (.cancel t) (w.act T (.cancel t)) := by
  rw [act_cancel_eq T ht (hn.symm ▸ hwire), hn]
  cases hb : h.isBusy with
  | true =>
      rw [if_pos rfl]
      exact .rest ht hn hwire (.cancel hb)
  | false =>
      rw [if_neg (by simp)]
      exact .cancel ht hn hwire hb

/-- **What an act does with a connection that a task has.** -/
theorem act_deals (T : Transport σ) (hw : w.Sound me) (hp : w.place n = .taken t) (a : Act σ) :
    Deals w n t a (w.act T a) := by
  by_cases ha : Concerns n t a
  · obtain ⟨c, wire, task, -, hwire, ht, hatt⟩ := hw.attended n t hp
    obtain ⟨origin, activity⟩ := task
    cases activity with
    | calling target => exact hatt.elim
    | dialling target options => exact hatt.elim
    | handling h =>
        have hn := (hw.number_of_place hp (handler?_of_find? ht)).1
        rcases ha with rfl | rfl | ⟨what, rfl⟩ | ⟨what, rfl⟩
        · exact task_deals T ht hn hwire
        · exact cancel_deals T ht hn hwire
        · exact tunnel_deals T ht hn hwire what
        · exact .remote what
    | done outcome =>
        have hh : w.handler? t = none := handler?_of_find? ht
        rcases ha with rfl | rfl | ⟨what, rfl⟩ | ⟨what, rfl⟩
        · have hact : w.act T (.task t) = w := by
            show w.taskMove T t = _
            simp [taskMove, Manager.stepTask, ht]
          rw [hact]
          exact .done ht (.inl rfl)
        · have hact : w.act T (.cancel t) = w := by
            show w.cancel t = _
            simp [World.cancel, hh, onManager, Manager.cancel, ht]
          rw [hact]
          exact .done ht (.inr (.inl rfl))
        · have hact : w.act T (.tunnel t what) = w := by
            show w.engineMove t what = _
            simp [engineMove, ht]
          rw [hact]
          exact .done ht (.inr (.inr ⟨what, rfl⟩))
        · exact .remote what
  · obtain ⟨htask, hwire, hdeeds⟩ := (act_change T hw a).aside hw hp ha
    exact .aside ha htask hwire hdeeds

/-- A task that is done runs no handler. -/
theorem handler?_conclude (m : Manager σ) (w : World σ) (t : Nat) (origin : Origin)
    (outcome : Outcome) : handler? { w with manager := m.conclude t origin outcome } t = none :=
  handler?_of_find? (w := { w with manager := m.conclude t origin outcome })
    (Table.find?_put_self m.tasks t ⟨origin, .done outcome⟩)

/-- **The handler of a task that has a connection stays as it is, or makes a
move.** -/
theorem handler?_act (T : Transport σ) (hw : w.Sound me) (hp : w.place n = .taken t) (a : Act σ)
    {h' : Handler} (hh' : (w.act T a).handler? t = some h') :
    w.handler? t = some h' ∨ ∃ h wire move, w.handler? t = some h ∧
      Brings w.manager.toNode wire h t a move ∧ h.Turn w.manager.toNode wire move ∧
      move.handler = h' := by
  have hdeals := act_deals T hw hp a
  generalize w.act T a = w' at hdeals hh'
  cases hdeals with
  | aside ha htask hwire hds =>
      left
      unfold handler? at *
      rw [← htask]
      exact hh'
  | remote what => exact .inl hh'
  | rest hf hn hwire hrests => exact .inl hh'
  | done hf ha => exact .inl hh'
  | @move _ origin h wire move hf hn hwire hb =>
      have hh : w.handler? t = some h := handler?_of_find? hf
      obtain ⟨c, wire', -, -, -, htends⟩ := hw.tends hh
      have hself := (handler?_put w.manager.tasks t t ⟨origin, .handling move.handler⟩).trans
        (if_pos rfl)
      exact .inr ⟨h, wire, move, hh, hb, hb.turn htends.staged,
        Option.some.inj (hself.symm.trans hh')⟩
  | conclude => cases (handler?_conclude _ w t _ _).symm.trans hh'
  | cancel => cases (handler?_conclude _ w t _ _).symm.trans hh'

/-! ## §3. The moment at which a task gets a connection. -/

/-- A connection that a task has just got is with a handler that did nothing
yet. -/
theorem Change.fresh_of_taken (hc : Change w a w') (hn : ∀ s, w.place n ≠ .taken s)
    (hp : w'.place n = .taken t) :
    ∃ h, w'.handler? t = some h ∧ h.number = n ∧ h.phase = .fresh := by
  -- Of the connection that changes hands, the new place is known.
  have hgive : ∀ {k : Nat} {place : Place}, Function.update w.place k place n = .taken t →
      n = k ∧ place = .taken t := by
    intro k place hu
    by_cases hk : n = k
    · subst hk
      rw [Function.update_self] at hu
      exact ⟨rfl, hu⟩
    · rw [Function.update_of_ne hk] at hu
      exact absurd hu (hn t)
  cases hc with
  | make =>
      have hu : Function.update w.place w.next .loose n = .taken t := hp
      cases (hgive hu).2
  | discard => cases (hgive hp).2
  | enqueue => cases (hgive hp).2
  | @take _ c s origin incoming forced options m hl hcon hfree hlt hnone hm =>
      obtain ⟨hk, hs⟩ := hgive hp
      cases hs
      refine ⟨Manager.handlerFor c incoming forced options, ?_, hk.symm, rfl⟩
      show (m.tasks.find? t).bind _ = _
      rw [hm.tasks]
      exact (handler?_put _ _ _ _).trans (if_pos rfl)
  | @pop _ j inlet c queue _ hj hq =>
      obtain ⟨hk, hs⟩ := hgive hp
      cases hs
      exact ⟨Manager.handlerFor c true false {}, (handler?_put _ _ _ _).trans (if_pos rfl),
        hk.symm, rfl⟩
  | _ => exact absurd hp (hn t)

/-- **A task that has a connection got it at one moment of the run.** -/
theorem taken_run (T : Transport σ) (hw : w.Sound me) (hn : ∀ s, w.place n ≠ .taken s)
    {acts : List (Act σ)} (hp : (w.run T acts).place n = .taken t) :
    ∃ before a after h, acts = before ++ a :: after ∧
      (∀ l l', before = l ++ l' → ∀ s, (w.run T l).place n ≠ .taken s) ∧
      (w.run T (before ++ [a])).handler? t = some h ∧ h.number = n ∧ h.phase = .fresh := by
  induction acts generalizing w with
  | nil => exact absurd hp (hn t)
  | cons a rest ih =>
      have hc := act_change T hw a
      by_cases htaken : ∃ s, (w.act T a).place n = .taken s
      · -- This is the moment; the task keeps the connection from here on.
        obtain ⟨s, hs⟩ := htaken
        have hlater := place_run (T := T) (hc.sound hw) hs rest
        cases hlater.symm.trans hp
        obtain ⟨h, hh, hnum, hfresh⟩ := hc.fresh_of_taken hn hs
        refine ⟨[], a, rest, h, rfl, ?_, hh, hnum, hfresh⟩
        intro l l' he
        obtain ⟨rfl, rfl⟩ := List.append_eq_nil_iff.mp he.symm
        exact hn
      · obtain ⟨before, b, after, h, rfl, hbefore, hrest⟩ :=
          ih (hc.sound hw) (not_exists.mp htaken) hp
        refine ⟨a :: before, b, after, h, rfl, ?_, hrest⟩
        intro l l' he
        cases l with
        | nil => exact hn
        | cons b' l =>
            obtain ⟨rfl, htail⟩ := List.cons.inj he
            exact hbefore l l' htail

end LinkLayer.World

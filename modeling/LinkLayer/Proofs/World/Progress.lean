/-
  LinkLayer.Proofs.World.Progress
  ───────────────────────────────
  **HOW ONE TASK GOES ON.**

  A task that has a connection is touched by few acts: by the turns of its
  handler, by its own end, and by its cancellation (`Goes`, `Change.goes`).
  From this follows what a run can make of a handler that has a frame before
  it:

    • `movesToDecide_run` — three moves of its own are enough for it to
      decide, whatever else happens,
    • `Sound.settled` — then it was served, or was rejected with a result,
    • `Sound.over_of_result` — the record fits the result, whether the link is
      over or still closes,
    • `cancelled_run` — the result is that of a cancellation only if there was
      one,
    • `Sound.ends` — a link with a result comes to its end.
-/
import LinkLayer.Proofs.Link.Deadline
import LinkLayer.Proofs.World.History

namespace LinkLayer

/-! ## §1. Deciding and its results. -/

namespace Handler

/-- The moves that a handler makes from the receipt of a frame to the
hand-over, as many of them as are still to come. -/
def movesToDecide (h : Handler) : Nat :=
  match h.phase with
  | .received _ => 3
  | .validated _ => 2
  | .registered .. => 1
  | _ => 0

/-- What a handler has decided to end with, or has ended with. -/
def result? (h : Handler) : Option Outcome :=
  match h.phase with
  | .closing _ outcome | .ended outcome => some outcome
  | _ => none

variable {l : Link} {n : Nat} {ds : List Deed} {octets : Bytes} {outcome : Outcome}

/-- A record with a frame, of a link that has ended, shows that it was served,
or the reason why not. -/
theorem Over.settled (h : Over l n ds outcome) (hr : Deed.received octets ∈ ds) :
    (∃ settings octets peer, ds = servedLog l n settings octets peer) ∨
    ∃ reason, Rejected l n ds reason ∧ (outcome = reason ∨ outcome = .cancelled) := by
  cases h with
  | rejected hrej => exact .inr ⟨_, hrej, .inl rfl⟩
  | served => exact .inl ⟨_, _, _, rfl⟩
  | collapsed => exact .inl ⟨_, _, _, rfl⟩
  | cancelled hp =>
      cases hp with
      | fresh => simp at hr
      | begun => simp at hr
      | rejected hrej => exact .inr ⟨_, hrej, .inr rfl⟩
      | served => exact .inl ⟨_, _, _, rfl⟩

/-- The same for a handler that has decided. -/
theorem Chronicle.settled {h : Handler} (hc : h.Chronicle ds) (hr : Deed.received octets ∈ ds)
    (hm : h.movesToDecide = 0) :
    (∃ settings octets peer, ds = servedLog h.link h.number settings octets peer) ∨
    ∃ reason, Rejected h.link h.number ds reason ∧
      (h.result? = some reason ∨ h.result? = some .cancelled) := by
  unfold Chronicle at hc
  unfold movesToDecide at hm
  unfold result?
  cases hp : h.phase with
  | tunnelling entry session =>
      rw [hp] at hc
      obtain ⟨octets', peer, -, -, hds⟩ := hc
      exact .inl ⟨_, _, _, hds⟩
  | leaving entry result =>
      rw [hp] at hc
      obtain ⟨octets', peer, -, -, hds⟩ := hc
      exact .inl ⟨_, _, _, hds⟩
  | closing due outcome =>
      rw [hp] at hc
      exact .inr ⟨outcome, hc, .inl rfl⟩
  | ended outcome =>
      rw [hp] at hc
      rcases Over.settled hc hr with hserved | ⟨reason, hrej, heq⟩
      · exact .inl hserved
      · exact .inr ⟨reason, hrej, heq.imp (congrArg some) (congrArg some)⟩
  | _ => simp_all

variable {node : Node} {wire : Wire} {h : Handler} {move : Move}

/-- Every turn after the receipt of the frame brings the decision nearer. -/
theorem Turn.movesToDecide (ht : Turn node wire h move) (hc : h.Chronicle ds)
    (hr : Deed.received octets ∈ ds) : move.handler.movesToDecide ≤ h.movesToDecide - 1 := by
  cases ht with
  | receiveAll hp =>
      -- Whoever is still receiving has no frame on record.
      simp only [Chronicle, hp] at hc
      simp [hc] at hr
  | _ => simp_all [Handler.movesToDecide, closing]

/-- An outcome is a result. -/
theorem result_of_outcome (ho : h.outcome? = some outcome) : h.result? = some outcome := by
  rw [result?, outcome?_eq_some.mp ho]

/-- A handler with a result is over with it, or closes with it. -/
theorem Chronicle.over_of_result (hc : h.Chronicle ds) (hr : h.result? = some outcome) :
    Over h.link h.number ds outcome := by
  unfold result? at hr
  unfold Chronicle at hc
  split at hr
  · next due outcome' hp =>
      cases hr
      rw [hp] at hc
      exact .rejected hc
  · next outcome' hp =>
      cases hr
      rw [hp] at hc
      exact hc
  · cases hr

/-- No turn results in a cancellation. -/
theorem Turn.result (ht : Turn node wire h move)
    (hr : move.handler.result? = some .cancelled) : h.result? = some .cancelled := by
  cases ht with
  | turnAway hp hd hrefuses => cases hrefuses <;> simp [result?, closing] at hr
  | @leave entry result n hp => cases result <;> simp [result?, outcomeOf] at hr
  | _ => simp_all [result?, closing]

/-- The two timeouts of a handshake are those of giving up. -/
theorem Turn.gaveUp {cause : LinkError} (ht : Turn node wire h move)
    (hc : cause = .sendTimeout ∨ cause = .recvTimeout)
    (hr : move.handler.result? = some (.failed cause))
    (hn : h.result? ≠ some (.failed cause)) : GivesUp node wire h.phase cause := by
  cases ht with
  | giveUp hg =>
      cases hr
      exact hg
  | refuse => rcases hc with rfl | rfl <;> cases hr
  | turnAway hp hd hrefuses =>
      cases hr
      rcases hc with rfl | rfl <;> cases hrefuses
  | @leave entry result n hp =>
      rcases hc with rfl | rfl <;> cases result <;> cases hr
  | _ => simp_all [result?, closing]

/-- A close ends with what was decided. -/
theorem Turn.of_closing {due : Nat} (ht : Turn node wire h move)
    (hp : h.phase = .closing due outcome) : move.handler.outcome? = some outcome := by
  cases ht with
  | giveUp hg =>
      rw [hp] at hg
      cases hg
  | _ => simp_all [outcome?]

/-- Whoever has the whole frame has it before it next. -/
theorem Turn.of_receiving {due : Nat} (ht : Turn node wire h move)
    (hp : h.phase = .receiving due octets) (hl : octets.length = frameLength) :
    move.handler.phase = .received octets := by
  cases ht with
  | giveUp hg =>
      rw [hp] at hg
      cases hg <;> contradiction
  | _ => simp_all

/-- Whoever has still to decide can move at once. -/
theorem step_of_undecided (node : Node) (wire : Wire) (hm : h.movesToDecide ≠ 0) :
    ∃ move, h.step node wire = some move := by
  unfold movesToDecide at hm
  cases hp : h.phase with
  | received octets => exact ⟨_, by rw [step, hp]⟩
  | validated peer => exact ⟨_, by rw [step, hp]⟩
  | registered peer entry => exact ⟨_, by rw [step, hp]⟩
  | _ => simp [hp] at hm

end Handler

/-- What the handler of a task has decided to end with, or has ended with. -/
def Activity.result? : Activity → Option Outcome
  | .handling h => h.result?
  | .done outcome => some outcome
  | _ => none

/-- An act is the next move of a task. -/
def Act.isMoveOf {σ : Type} (t : Nat) : Act σ → Bool
  | .task k => k = t
  | _ => false

namespace World

variable {σ : Type} {T : Transport σ} {me : Identity} {w w' : World σ} {a : Act σ} {n t : Nat}

/-- The result of the link that was made of a connection, once it has one. -/
def result? (w : World σ) (n : Nat) : Option Outcome :=
  match w.place n with
  | .taken t => (w.manager.tasks.find? t).bind fun task => task.activity.result?
  | _ => none

/-- The moves that a task makes until its handler has decided. -/
def movesToDecide (w : World σ) (t : Nat) : Nat :=
  ((w.handler? t).map Handler.movesToDecide).getD 0

/-- The handler of a connection has no frame before it of which it has still to
decide. -/
def Decided (w : World σ) (n : Nat) : Prop :=
  ∀ t h, w.place n = .taken t → w.handler? t = some h → h.movesToDecide = 0

/-! ## §2. Tasks with a connection. -/

/-- What an act can make of a task that has a connection. -/
inductive Goes (w : World σ) (a : Act σ) (t : Nat) : Activity → Activity → Prop
  | same {activity : Activity} : Goes w a t activity activity
  | turn {h : Handler} {wire : Wire} {move : Handler.Move} :
      h.Turn w.manager.toNode wire move → Goes w a t (.handling h) (.handling move.handler)
  | concluded {h : Handler} {outcome : Outcome} : h.outcome? = some outcome →
      Goes w a t (.handling h) (.done outcome)
  | cancelled {h : Handler} {outcome : Outcome} : a = .cancel t →
      Goes w a t (.handling h) (.done outcome)

/-- **A task that has a connection is touched by its own moves alone.** -/
theorem Change.goes (hc : Change w a w') (hw : w.Sound me) {task : Task}
    (hp : w.place n = .taken t) (ht : w.manager.tasks.find? t = some task) :
    ∃ task', w'.manager.tasks.find? t = some task' ∧ Goes w a t task.activity task'.activity := by
  -- A task that is put elsewhere leaves this one alone.
  have hput : ∀ {k : Nat} (task' : Task), k ≠ t →
      (w.manager.tasks.put k task').find? t = some task := by
    intro k task' hk
    rw [Table.find?_put, if_neg hk.symm]
    exact ht
  have hsame : w'.manager.tasks.find? t = some task →
      ∃ task', w'.manager.tasks.find? t = some task' ∧ Goes w a t task.activity task'.activity :=
    fun hs => ⟨task, hs, .same⟩
  cases hc with
  | keep hm => exact hsame (hm.tasks ▸ ht)
  | @take _ c k origin incoming forced options m _ _ hfree _ _ hm =>
      refine hsame ?_
      show m.tasks.find? t = some task
      rw [hm.tasks]
      refine hput _ ?_
      rintro rfl
      exact hfree n hp
  | @pop _ j inlet c queue _ hj hq =>
      -- A connection in a queue has no task yet.
      obtain ⟨hcon, hplace⟩ := hw.queued j inlet hj c (by rw [hq]; exact List.mem_cons_self)
      refine hsame (hput _ ?_)
      rintro rfl
      have hnone := hw.no_task hcon (by simp [hplace])
      rw [ht] at hnone
      cases hnone
  | spawn => exact hsame (hput _ (Nat.ne_of_gt (hw.tasks t task ht).1))
  | @idle _ k origin activity activity' m hi hk hm =>
      refine hsame ?_
      rw [hm.tasks]
      refine hput _ ?_
      rintro rfl
      -- Whoever calls or dials has no connection.
      exact hw.place_ne hk hi.not_attends n hp
  | @move _ k origin h wire move hmoves hk hwire hturn =>
      by_cases hkt : k = t
      · subst hkt
        rw [ht] at hk
        cases hk
        exact ⟨_, Table.find?_put_self _ _ _, .turn hturn⟩
      · exact hsame (hput _ hkt)
  | @conclude k origin h outcome hk ho =>
      by_cases hkt : k = t
      · subst hkt
        rw [ht] at hk
        cases hk
        exact ⟨_, Table.find?_put_self _ _ _, .concluded ho⟩
      · exact hsame (hput _ hkt)
  | @cancel k origin h wire hk hwire hbusy =>
      by_cases hkt : k = t
      · subst hkt
        rw [ht] at hk
        cases hk
        exact ⟨_, Table.find?_put_self _ _ _, .cancelled rfl⟩
      · refine hsame ?_
        show ((w.manager.tasks.put k _).put k _).find? t = some task
        rw [Table.find?_put, if_neg (Ne.symm hkt)]
        exact hput _ hkt
  | _ => exact hsame ht

/-! ## §3. One act. -/

theorem result?_of_place (hp : w.place n = .taken t) {task : Task}
    (ht : w.manager.tasks.find? t = some task) : w.result? n = task.activity.result? := by
  simp only [result?, hp, ht, Option.bind_some]

theorem result_of_handler (hp : w.place n = .taken t) {h : Handler}
    (hh : w.handler? t = some h) : w.result? n = h.result? := by
  obtain ⟨origin, ht⟩ := find?_of_handler? hh
  exact result?_of_place hp ht

theorem result_of_outcome {outcome : Outcome} (ho : w.outcome? n = some outcome) :
    w.result? n = some outcome := by
  unfold outcome? at ho
  split at ho
  · next t hp =>
      obtain ⟨⟨origin, activity⟩, ht, ho'⟩ := Option.bind_eq_some_iff.mp ho
      rw [result?_of_place hp ht]
      cases activity with
      | handling h => exact Handler.result_of_outcome ho'
      | done outcome' => exact ho'
      | calling target => cases ho'
      | dialling target options => cases ho'
  · cases ho

/-- **What has a result is over with it, or closes with it**, and has a record
that fits. -/
theorem Sound.over_of_result (hw : w.Sound me) {outcome : Outcome}
    (hr : w.result? n = some outcome) :
    ∃ l c, w.connection n = some c ∧ l.Labelled c ∧
      Handler.Over l n (w.deedsOf n) outcome := by
  unfold result? at hr
  split at hr
  · next t hp =>
      obtain ⟨c, wire, task, hc, -, ht, hatt⟩ := hw.attended n t hp
      have hcn := (hw.made n c hc).1
      rw [ht, Option.bind_some] at hr
      obtain ⟨origin, activity⟩ := task
      cases activity with
      | handling h =>
          have htends : h.Tends me w.manager.registry.fired c wire (w.deedsOf n) := hatt
          have hn : h.number = n := htends.number.trans hcn
          exact ⟨h.link, c, hc, htends.labels, hn ▸ htends.chronicle.over_of_result hr⟩
      | done outcome' =>
          cases hr
          obtain ⟨l, hl⟩ := hatt
          exact ⟨l, c, hc, hl.labels, hcn ▸ hl.ended⟩
      | calling target => exact hatt.elim
      | dialling target options => exact hatt.elim
  · cases hr

theorem movesToDecide_of_handler {h : Handler} (hh : w.handler? t = some h) :
    w.movesToDecide t = h.movesToDecide := by
  simp [movesToDecide, hh]

/-- An act does not put off a decision. -/
theorem Change.movesToDecide_le (hc : Change w a w') (hw : w.Sound me) {octets : Bytes}
    (hp : w.place n = .taken t) (hr : Deed.received octets ∈ w.deedsOf n) :
    w'.movesToDecide t ≤ w.movesToDecide t := by
  obtain ⟨c, wire, task, ht, hatt, -⟩ := hw.task_of_place hp
  obtain ⟨task', ht', hgoes⟩ := hc.goes hw hp ht
  have hh := handler?_of_find? ht
  have hh' := handler?_of_find? ht'
  obtain ⟨origin, activity⟩ := task
  obtain ⟨origin', activity'⟩ := task'
  cases hgoes with
  | same =>
      unfold movesToDecide
      rw [hh, hh']
      exact Nat.le_refl _
  | @turn h wire' move hturn =>
      have hstep := hturn.movesToDecide (hw.number_of_place hp hh).2 hr
      rw [movesToDecide_of_handler hh, movesToDecide_of_handler hh']
      exact Nat.le_trans hstep (Nat.sub_le _ _)
  | concluded ho => simp [movesToDecide, hh', Task.handler?]
  | cancelled ha => simp [movesToDecide, hh', Task.handler?]

/-- A move of the task itself brings its decision nearer. -/
theorem movesToDecide_task (T : Transport σ) (hw : w.Sound me) {octets : Bytes}
    (hp : w.place n = .taken t) (hr : Deed.received octets ∈ w.deedsOf n) :
    (w.act T (.task t)).movesToDecide t ≤ w.movesToDecide t - 1 := by
  -- Who has not decided never waits.
  by_cases hm : w.movesToDecide t = 0
  · have hle := (act_change T hw (.task t)).movesToDecide_le hw hp hr
    omega
  · cases hh : w.handler? t with
    | none => simp [movesToDecide, hh] at hm
    | some h =>
        rw [movesToDecide_of_handler hh] at hm ⊢
        obtain ⟨c, wire, -, hwire, -, -⟩ := hw.tends hh
        obtain ⟨move, hmove⟩ := Handler.step_of_undecided w.manager.toNode wire hm
        have hmoment := act_task T hw hh hwire hmove
        rw [movesToDecide_of_handler hmoment.next]
        exact hmoment.turn.movesToDecide (hw.number_of_place hp hh).2 hr

/-- The result is that of a cancellation only if there was one. -/
theorem Change.result_cancelled (hc : Change w a w') (hw : w.Sound me)
    (hp : w.place n = .taken t) (hr : w'.result? n = some .cancelled) :
    w.result? n = some .cancelled ∨ a = .cancel t := by
  obtain ⟨c, wire, task, ht, hatt, -⟩ := hw.task_of_place hp
  obtain ⟨task', ht', hgoes⟩ := hc.goes hw hp ht
  rw [result?_of_place (hc.place hw hp) ht'] at hr
  rw [result?_of_place hp ht]
  generalize task.activity = activity at *
  generalize task'.activity = activity' at *
  cases hgoes with
  | same => exact .inl hr
  | turn hturn => exact .inl (hturn.result hr)
  | @concluded h outcome ho =>
      cases hr
      exact .inl (Handler.result_of_outcome ho)
  | cancelled ha => exact .inr ha

/-! ## §4. Runs. -/

/-- **With every move of its own, a task comes nearer to its decision,
whatever else happens.** -/
theorem movesToDecide_run (T : Transport σ) (hw : w.Sound me) {octets : Bytes}
    (hp : w.place n = .taken t) (hr : Deed.received octets ∈ w.deedsOf n)
    (acts : List (Act σ)) :
    (w.run T acts).movesToDecide t ≤ w.movesToDecide t - acts.countP (Act.isMoveOf t) := by
  -- From the front; the frame on record and the place carry over.
  induction acts generalizing w with
  | nil => exact Nat.le_refl _
  | cons a rest ih =>
      have hc := act_change T hw a
      have hrest := ih (hc.sound hw) (hc.place hw hp) ((deedsOf_run hw [a] n).subset hr)
      have hall := hc.movesToDecide_le hw hp hr
      rw [List.countP_cons]
      show ((w.act T a).run T rest).movesToDecide t ≤ _
      by_cases ha : a.isMoveOf t = true
      · have hown : (w.act T a).movesToDecide t ≤ w.movesToDecide t - 1 := by
          cases a with
          | task k =>
              have hk : k = t := by simpa [Act.isMoveOf] using ha
              subst hk
              exact movesToDecide_task T hw hp hr
          | _ => cases ha
        rw [if_pos ha]
        omega
      · rw [if_neg ha]
        omega

/-- **A result is that of a cancellation only if there was one.** -/
theorem cancelled_run (T : Transport σ) (hw : w.Sound me) (hp : w.place n = .taken t)
    {acts : List (Act σ)} (hr : (w.run T acts).result? n = some .cancelled) :
    w.result? n = some .cancelled ∨ .cancel t ∈ acts := by
  induction acts generalizing w with
  | nil => exact .inl hr
  | cons a rest ih =>
      have hc := act_change T hw a
      rcases ih (hc.sound hw) (hc.place hw hp) hr with hnow | hlater
      · rcases hc.result_cancelled hw hp hnow with hbefore | rfl
        · exact .inl hbefore
        · exact .inr List.mem_cons_self
      · exact .inr (List.mem_cons_of_mem _ hlater)

/-! ## §5. After the decision. -/

theorem decided_of_movesToDecide (hp : w.place n = .taken t) (hm : w.movesToDecide t = 0) :
    w.Decided n := by
  intro k h hk hh
  rw [hp] at hk
  cases hk
  rwa [movesToDecide_of_handler hh] at hm

/-- **A link that had a frame before it and has decided was served, or was
rejected with a result.** -/
theorem Sound.settled (hw : w.Sound me) {octets : Bytes}
    (hr : Deed.received octets ∈ w.deedsOf n) (hd : w.Decided n) :
    (∃ l settings octets peer, w.deedsOf n = Handler.servedLog l n settings octets peer) ∨
    ∃ l reason, Handler.Rejected l n (w.deedsOf n) reason ∧
      (w.result? n = some reason ∨ w.result? n = some .cancelled) := by
  obtain ⟨t, c, wire, task, hp, -, hcw, -, ht, hatt⟩ := hw.of_mem_deedsOf hr
  have hh := handler?_of_find? ht
  rw [result?_of_place hp ht]
  obtain ⟨origin, activity⟩ := task
  cases activity with
  | handling h =>
      obtain ⟨hn, hchronicle⟩ := hw.number_of_place hp hh
      rcases hchronicle.settled hr (hd t h hp hh) with ⟨_, _, _, hds⟩ | ⟨reason, hrej, hres⟩
      · exact .inl ⟨h.link, _, _, _, hn ▸ hds⟩
      · exact .inr ⟨h.link, reason, hn ▸ hrej, hres⟩
  | done outcome =>
      obtain ⟨l, hl⟩ := hatt
      rcases hl.ended.settled hr with ⟨_, _, _, hds⟩ | ⟨reason, hrej, hres⟩
      · exact .inl ⟨l, _, _, _, hcw ▸ hds⟩
      · exact .inr ⟨l, reason, hcw ▸ hrej, hres.imp (congrArg some) (congrArg some)⟩
  | calling target => exact hatt.elim
  | dialling target options => exact hatt.elim

/-- **A link with a result has ended, or ends when the time for its close is
over.** -/
theorem Sound.ends (T : Transport σ) (hw : w.Sound me) (hp : w.place n = .taken t)
    {outcome : Outcome} (hr : w.result? n = some outcome) :
    w.outcome? n = some outcome ∨
      ∃ due, (w.run T [.clock due, .task t]).outcome? n = some outcome := by
  obtain ⟨c, wire, task, ht, hatt, -⟩ := hw.task_of_place hp
  have hh := handler?_of_find? ht
  rw [result?_of_place hp ht] at hr
  obtain ⟨origin, activity⟩ := task
  cases activity with
  | handling h =>
      obtain ⟨hn, -⟩ := hw.number_of_place hp hh
      have hr' : h.result? = some outcome := hr
      unfold Handler.result? at hr'
      split at hr'
      · next due outcome' hphase =>
          cases hr'
          -- At that time the close makes its last move, whatever the wire does.
          refine .inr ⟨due, ?_⟩
          have hw₁ := (act_change T hw (.clock due)).sound hw
          have hh₁ : (w.act T (.clock due)).handler? t = some h := hh
          obtain ⟨_, wire₁, -, hwire₁, -, -⟩ := hw₁.tends hh₁
          have hdue : h.due? = some due := by rw [Handler.due?, hphase]
          obtain ⟨move, hmove⟩ := Handler.step_of_due (w.act T (.clock due)).manager.toNode
            wire₁ hdue (Nat.le_max_right _ _)
          have hmoment := act_task T hw₁ hh₁ hwire₁ hmove
          have hend := ((act_change T hw₁ (.task t)).sound hw₁).outcome_of_handler hmoment.next
          rw [hmoment.turn.link.2, hn, hmoment.turn.of_closing hphase] at hend
          exact hend
      · next outcome' hphase =>
          cases hr'
          refine .inl ?_
          have hend := hw.outcome_of_handler hh
          rw [hn] at hend
          exact hend.trans (Handler.outcome?_eq_some.mpr hphase)
      · cases hr'
  | done outcome' =>
      cases hr
      exact .inl (by simp [outcome?, hp, ht])
  | calling target => exact hatt.elim
  | dialling target options => exact hatt.elim

end World

end LinkLayer

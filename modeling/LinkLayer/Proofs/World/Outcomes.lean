/-
  LinkLayer.Proofs.World.Outcomes
  ───────────────────────────────
  **HOW A LINK ENDS, AND WHY.**

  The link of a connection walks through its stages, and whatever it ends with
  was brought about at one moment of the run.

    • `stages`, `trails_run` — the stages in a run are a walk,
    • `exists_binds` — whoever is bound to an outcome was bound by one move,
    • `bound_run`, `left_run` — whoever is bound ends so; only one that still
      closes its connection can be cancelled before,
    • `EngineReturns`, `Forbids`, `RefusesToBegin` — moments of a run.

  `outcome_has_cause` puts this together for all runs.
-/
import LinkLayer.Proofs.Link.Walk
import LinkLayer.Proofs.World.AfterStop
import LinkLayer.Proofs.World.Moments

namespace LinkLayer

/-- What the handler of a task is bound to end with, or has ended with. -/
def Activity.bound? : Activity → Option Outcome
  | .handling h => h.bound?
  | .done outcome => some outcome
  | _ => none

namespace World

variable {σ : Type} {T : Transport σ} {me : Identity} {w : World σ} {a : Act σ} {n t : Nat}
  {acts : List (Act σ)} {walk : List Stage} {outcome : Outcome} {result : Except String Unit}

/-! ## §1. The stages in a run. -/

/-- The handler of the link that was made of a connection. -/
def handlerOf? (w : World σ) (n : Nat) : Option Handler :=
  match w.place n with
  | .taken t => w.handler? t
  | _ => none

/-- The stages that the link of a connection reaches in an act. -/
def stagesIn (T : Transport σ) (w : World σ) (n : Nat) (a : Act σ) : List Stage :=
  match w.handlerOf? n, (w.act T a).handlerOf? n with
  | some h, some h' => h.stagesTo h'
  | _, _ => []

/-- The stages that the link of a connection reaches in a run, in their
order. -/
def stages (T : Transport σ) (w : World σ) (n : Nat) : List (Act σ) → List Stage
  | [] => []
  | a :: rest => w.stagesIn T n a ++ (w.act T a).stages T n rest

/-- The link of a connection has come to where it is by a walk. -/
structure Trails (n : Nat) (w : World σ) (walk : List Stage) : Prop where
  blank : (∀ t, w.place n ≠ .taken t) → walk = [.created]
  isWalk : Stage.IsWalk walk
  walked : ∀ h, w.handlerOf? n = some h → h.Walked walk

theorem handlerOf?_of_place (hp : w.place n = .taken t) : w.handlerOf? n = w.handler? t := by
  rw [handlerOf?, hp]

theorem handlerOf?_of_blank (hp : ∀ t, w.place n ≠ .taken t) : w.handlerOf? n = none := by
  unfold handlerOf?
  split
  · next t ht => exact absurd ht (hp t)
  · rfl

/-- A handler that did nothing yet is at the beginning of its walk. -/
theorem walked_of_fresh (hw : w.Sound me) {h : Handler} (hh : w.handler? t = some h)
    (hf : h.phase = .fresh) : h.Walked [.created] := by
  obtain ⟨_, _, -, -, -, htends⟩ := hw.tends hh
  have hs := htends.staged
  simp only [Handler.Staged, hf] at hs
  have halive : h.Walked h.stage.upTo := .alive (by simp [hs.1])
  rw [hs.1] at halive
  exact halive

/-- **An act goes on with the walk.** -/
theorem Trails.act (h : Trails n w walk) (T : Transport σ) (hw : w.Sound me) (a : Act σ) :
    Trails n (w.act T a) (walk ++ w.stagesIn T n a) := by
  have hc := act_change T hw a
  by_cases hp : ∃ t, w.place n = .taken t
  · obtain ⟨t, hp⟩ := hp
    have hp' := hc.place hw hp
    have hblank : (∀ s, (w.act T a).place n ≠ .taken s) → walk ++ w.stagesIn T n a = [.created] :=
      fun hno => absurd hp' (hno t)
    cases hh' : (w.act T a).handlerOf? n with
    | none =>
        -- The link is over, so nothing is reached.
        have hnil : w.stagesIn T n a = [] := by
          unfold stagesIn
          rw [hh']
          split <;> simp_all
        rw [hnil, List.append_nil] at hblank ⊢
        exact ⟨hblank, h.isWalk, fun h' hh => by cases hh'.symm.trans hh⟩
    | some h' =>
        have hwalked : h'.Walked (walk ++ w.stagesIn T n a) := by
          have hh₁ : (w.act T a).handler? t = some h' := (handlerOf?_of_place hp').symm.trans hh'
          rcases handler?_act T hw hp a hh₁ with hsame | ⟨h₀, wire, move, hh₀, -, hturn, rfl⟩
          · have hh₀ := (handlerOf?_of_place hp).trans hsame
            simp only [stagesIn, hh₀, hh']
            exact (h.walked h' hh₀).of_same rfl
          · obtain ⟨_, _, -, -, -, htends⟩ := hw.tends hh₀
            have hh₂ := (handlerOf?_of_place hp).trans hh₀
            simp only [stagesIn, hh₂, hh']
            exact hturn.walked htends.staged (h.walked h₀ hh₂)
        refine ⟨hblank, hwalked.isWalk, fun h'' hh => ?_⟩
        cases hh'.symm.trans hh
        exact hwalked
  · have hp := not_exists.mp hp
    have hnil : w.stagesIn T n a = [] := by simp [stagesIn, handlerOf?_of_blank hp]
    rw [hnil, List.append_nil, h.blank hp]
    refine ⟨fun _ => rfl, h.blank hp ▸ h.isWalk, fun h' hh' => ?_⟩
    -- Whoever has just got the connection is at the beginning.
    by_cases hp' : ∃ t, (w.act T a).place n = .taken t
    · obtain ⟨t, hp'⟩ := hp'
      obtain ⟨h₀, hh₀, -, hfresh⟩ := hc.fresh_of_taken hp hp'
      cases hh'.symm.trans ((handlerOf?_of_place hp').trans hh₀)
      exact walked_of_fresh (hc.sound hw) hh₀ hfresh
    · cases (handlerOf?_of_blank (not_exists.mp hp')).symm.trans hh'

/-- **The stages in a run are a walk.** -/
theorem trails_run (T : Transport σ) (hw : w.Sound me) (h : Trails n w walk)
    (acts : List (Act σ)) : Trails n (w.run T acts) (walk ++ w.stages T n acts) := by
  induction acts generalizing w walk with
  | nil => exact (List.append_nil walk).symm ▸ h
  | cons a rest ih =>
      have hrest := ih ((act_change T hw a).sound hw) (h.act T hw a)
      rwa [List.append_assoc] at hrest

theorem trails_start (me : Identity) (settings : Settings) (engine : Engine) (state : σ)
    (n : Nat) : Trails n (start me settings engine state) [.created] where
  blank := fun _ => rfl
  isWalk := Stage.isWalk_upTo (s := .created) (by simp)
  walked := fun h hh => by cases hh

/-! ## §2. What binds a link. -/

/-- What the link of a connection is bound to end with, or has ended with. -/
def bound? (w : World σ) (n : Nat) : Option Outcome :=
  match w.place n with
  | .taken t => (w.manager.tasks.find? t).bind fun task => task.activity.bound?
  | _ => none

theorem bound?_of_place (hp : w.place n = .taken t) {task : Task}
    (ht : w.manager.tasks.find? t = some task) : w.bound? n = task.activity.bound? := by
  simp only [bound?, hp, ht, Option.bind_some]

theorem bound_of_handler (hp : w.place n = .taken t) {h : Handler}
    (hh : w.handler? t = some h) : w.bound? n = h.bound? := by
  obtain ⟨origin, ht⟩ := find?_of_handler? hh
  exact bound?_of_place hp ht

/-- An outcome is what a link was bound to. -/
theorem bound_of_outcome (ho : w.outcome? n = some outcome) : w.bound? n = some outcome := by
  unfold outcome? at ho
  split at ho
  · next t hp =>
      obtain ⟨task, ht, hta⟩ := Option.bind_eq_some_iff.mp ho
      rw [bound?_of_place hp ht]
      obtain ⟨origin, activity⟩ := task
      cases activity with
      | handling h => exact Handler.bound_of_outcome hta
      | done outcome => exact hta
      | _ => cases hta
  · cases ho

/-- An act lets the handler of a connection make a move, which binds it to an
outcome. -/
inductive Binds (n t : Nat) (outcome : Outcome) (w : World σ) (a : Act σ) : Prop
  | move {h : Handler} {wire : Wire} {move : Handler.Move} : w.handler? t = some h →
      h.number = n → w.wire? n = some wire → Brings w.manager.toNode wire h t a move →
      h.Cause w.manager.toNode wire move outcome → Binds n t outcome w a

/-- What an act can make of what a link is bound to: nothing; a move binds it;
or a cancellation comes before the end of a close. -/
inductive Rebinds (n t : Nat) (w : World σ) (a : Act σ) : Option Outcome → Option Outcome → Prop
  | same {o : Option Outcome} : Rebinds n t w a o o
  | bound {outcome : Outcome} : Binds n t outcome w a → Rebinds n t w a none (some outcome)
  | cancelled {h : Handler} {o : Option Outcome} : a = .cancel t → w.handler? t = some h →
      h.isBusy = false → h.outcome? = none → h.bound? = o → Rebinds n t w a o (some .cancelled)

/-- **One act**, and what a link is bound to. -/
theorem rebinds_act (T : Transport σ) (hw : w.Sound me) (hp : w.place n = .taken t) (a : Act σ) :
    Rebinds n t w a (w.bound? n) ((w.act T a).bound? n) := by
  have hdeals := act_deals T hw hp a
  have hp' := (act_change T hw a).place hw hp
  generalize w.act T a = w' at hdeals hp'
  have hsame : w'.manager.tasks.find? t = w.manager.tasks.find? t →
      Rebinds n t w a (w.bound? n) (w'.bound? n) := by
    intro ht
    have hb : w'.bound? n = w.bound? n := by simp only [bound?, hp, hp', ht]
    exact hb ▸ .same
  cases hdeals with
  | aside _ htask => exact hsame htask
  | remote => exact hsame rfl
  | rest => exact .same
  | done => exact .same
  | @conclude origin h outcome hf hn ho =>
      rw [bound?_of_place hp hf, bound?_of_place hp' (Table.find?_put_self _ _ _)]
      show Rebinds n t w _ h.bound? (some outcome)
      rw [Handler.bound_of_outcome ho]
      exact .same
  | @cancel origin h wire hf hn hwire hb =>
      rw [bound?_of_place hp hf, bound?_of_place hp' (Table.find?_put_self _ _ _)]
      show Rebinds n t w _ h.bound?
        (some ((h.cancel w.manager.toNode wire).handler.outcome?.getD _))
      unfold Handler.cancel
      cases ho : h.outcome? with
      | some outcome =>
          rw [Handler.bound_of_outcome ho]
          dsimp only
          rw [ho]
          exact .same
      | none => exact .cancelled rfl (handler?_of_find? hf) hb ho rfl
  | @move _ origin h wire move hf hn hwire hb =>
      have hh : w.handler? t = some h := handler?_of_find? hf
      obtain ⟨_, _, -, -, -, htends⟩ := hw.tends hh
      have hturn := hb.turn htends.staged
      rw [bound?_of_place hp hf, bound?_of_place hp' (Table.find?_put_self _ _ _)]
      show Rebinds n t w a h.bound? move.handler.bound?
      cases hbound : h.bound? with
      | some outcome =>
          have hended := hturn.bound hbound
          rw [Handler.bound_of_outcome (Handler.outcome?_eq_some.mpr hended)]
          exact .same
      | none =>
          cases hnext : move.handler.bound? with
          | none => exact .same
          | some outcome =>
              exact .bound (.move hh hn hwire hb (hturn.cause hnext (by simp [hbound])))

/-- Something happens in a run. -/
def Happens (T : Transport σ) (w : World σ) (acts : List (Act σ))
    (p : World σ → Act σ → Prop) : Prop :=
  ∃ l a l', acts = l ++ a :: l' ∧ p (w.run T l) a

theorem Happens.mono {p q : World σ → Act σ → Prop} (h : Happens T w acts p)
    (hpq : ∀ v a, p v a → q v a) : Happens T w acts q := by
  obtain ⟨l, a, l', hl, hp⟩ := h
  exact ⟨l, a, l', hl, hpq _ a hp⟩

/-- **Whoever is bound to an outcome was bound to it by a move**, at one moment
of the run. -/
theorem exists_binds (T : Transport σ) (hw : w.Sound me) (hn : ∀ s, w.place n ≠ .taken s)
    (hp : (w.run T acts).place n = .taken t) (hb : (w.run T acts).bound? n = some outcome)
    (hcan : outcome ≠ .cancelled) : Happens T w acts (Binds n t outcome) := by
  have hfree : ∀ {v : World σ}, (∀ s, v.place n ≠ .taken s) → v.bound? n = none := by
    intro v hv
    unfold bound?
    split
    · next s hs => exact absurd hs (hv s)
    · rfl
  obtain ⟨l, a, l', rfl, hnot, hnow⟩ := exists_becomes
    (p := fun v : World σ => v.bound? n = some outcome) (by simp [hfree hn]) hb
  have hw₁ := hw.run T l
  rw [run_append] at hnow
  by_cases htaken : ∃ s, (w.run T l).place n = .taken s
  · obtain ⟨s, hs⟩ := htaken
    have hlater := place_run (T := T) hw₁ hs (a :: l')
    rw [run_append] at hp
    cases hlater.symm.trans hp
    have hrebinds := rebinds_act T hw₁ hs a
    generalize hbefore : (w.run T l).bound? n = before at hrebinds
    generalize hafter : ((w.run T l).act T a).bound? n = after at hrebinds
    cases hafter.symm.trans hnow
    cases hrebinds with
    | same => exact absurd hbefore hnot
    | bound hbinds => exact ⟨l, a, l', rfl, hbinds⟩
    | cancelled => exact absurd rfl hcan
  · -- Whoever has just got a connection is not bound to anything.
    have hblank := not_exists.mp htaken
    by_cases htaken' : ∃ s, ((w.run T l).act T a).place n = .taken s
    · obtain ⟨s, hs⟩ := htaken'
      have hc := act_change T hw₁ a
      obtain ⟨h, hh, -, hfresh⟩ := hc.fresh_of_taken hblank hs
      have hnone : h.bound? = none := by rw [Handler.bound?, hfresh]
      cases ((bound_of_handler hs hh).trans hnone).symm.trans hnow
    · cases (hfree (not_exists.mp htaken')).symm.trans hnow

/-! ## §3. Whoever is bound ends so. -/

/-- Whoever is bound stays bound, or is cancelled. -/
theorem bound_run (T : Transport σ) (hw : w.Sound me) (hp : w.place n = .taken t)
    (hb : w.bound? n = some outcome) (acts : List (Act σ)) :
    (w.run T acts).bound? n = some outcome ∨
      (w.run T acts).bound? n = some .cancelled ∧ .cancel t ∈ acts := by
  induction acts generalizing w outcome with
  | nil => exact .inl hb
  | cons a rest ih =>
      have hc := act_change T hw a
      have hw₁ := hc.sound hw
      have hp₁ := hc.place hw hp
      have hrebinds := rebinds_act T hw hp a
      rw [hb] at hrebinds
      generalize hafter : (w.act T a).bound? n = after at hrebinds
      cases hrebinds with
      | same => exact (ih hw₁ hp₁ hafter).imp_right fun h => ⟨h.1, List.mem_cons_of_mem _ h.2⟩
      | cancelled ha =>
          -- From here on it is bound to the cancellation.
          refine .inr ⟨?_, ha ▸ List.mem_cons_self⟩
          exact (ih hw₁ hp₁ hafter).elim id And.left

/-- A link is bound to an outcome, and does not close its connection any
more. -/
structure Left (w : World σ) (n t : Nat) (outcome : Outcome) : Prop where
  bound : w.bound? n = some outcome
  past : ∀ h, w.handler? t = some h → ∀ due o, h.phase ≠ .closing due o

theorem Left.act (h : w.Left n t outcome) (T : Transport σ) (hw : w.Sound me)
    (hp : w.place n = .taken t) (a : Act σ) : (w.act T a).Left n t outcome := by
  obtain ⟨hb, hpast⟩ := h
  -- The handler of a bound link is where it was, or has ended.
  have hpast' : ∀ h', (w.act T a).handler? t = some h' → ∀ due o, h'.phase ≠ .closing due o := by
    intro h' hh'
    rcases handler?_act T hw hp a hh' with hsame | ⟨h, wire, move, hh, -, hturn, rfl⟩
    · exact hpast h' hsame
    · intro due o hclosing
      have hbound := (bound_of_handler hp hh).symm.trans hb
      cases (hturn.bound hbound).symm.trans hclosing
  refine ⟨?_, hpast'⟩
  have hrebinds := rebinds_act T hw hp a
  generalize hbefore : w.bound? n = before at hb hrebinds
  generalize (w.act T a).bound? n = after at hrebinds
  cases hrebinds with
  | same => exact hb
  | bound => cases hb
  | @cancelled h _ _ hh hbusy hrun hbound =>
      -- A handler that leaves is not cancelled: it does not wait.
      unfold Handler.isBusy at hbusy
      unfold Handler.outcome? at hrun
      have hnot := hpast h hh
      cases hphase : h.phase with
      | closing due o => exact absurd hphase (hnot due o)
      | _ => simp_all [Handler.bound?]

/-- **Whoever has left is not cancelled any more.** -/
theorem left_run (T : Transport σ) (hw : w.Sound me) (hp : w.place n = .taken t)
    (h : w.Left n t outcome) (acts : List (Act σ)) : (w.run T acts).Left n t outcome :=
  (hw.run_keeps T (p := fun w => w.place n = .taken t ∧ w.Left n t outcome)
    (fun hw h => ⟨(act_change T hw _).place hw h.1, h.2.act T hw h.1 _⟩) ⟨hp, h⟩ acts).2

/-- A link has ended with an outcome, or does so with the next move of its
handler once the time for the close is over. -/
def EndsWith (T : Transport σ) (w : World σ) (n t : Nat) (outcome : Outcome) : Prop :=
  w.outcome? n = some outcome ∨
    ∃ due, (w.run T [.clock due, .task t]).outcome? n = some outcome

/-- **Whoever is bound to an outcome ends with it.** -/
theorem Sound.ends_of_bound (T : Transport σ) (hw : w.Sound me) (hp : w.place n = .taken t)
    (hb : w.bound? n = some outcome) : w.EndsWith T n t outcome := by
  obtain ⟨_, _, task, ht, -, -⟩ := hw.task_of_place hp
  have hb' := (bound?_of_place hp ht).symm.trans hb
  have hresult := result?_of_place hp ht
  obtain ⟨origin, activity⟩ := task
  cases activity with
  | handling h =>
      have hh : w.handler? t = some h := handler?_of_find? ht
      cases hphase : h.phase with
      | leaving entry result =>
          -- Whoever leaves does so with its next move.
          have hw₁ := (act_change T hw (.clock 0)).sound hw
          have hh₁ : (w.act T (.clock 0)).handler? t = some h := hh
          obtain ⟨_, wire, -, hwire, -, -⟩ := hw₁.tends hh₁
          have hstep : h.step (w.act T (.clock 0)).manager.toNode wire =
              some (h.leave (w.act T (.clock 0)).manager.toNode wire entry result) := by
            rw [Handler.step, hphase]
          have hmoment := act_task T hw₁ hh₁ hwire hstep
          have hended := hmoment.turn.bound hb'
          have hend := ((act_change T hw₁ (.task t)).sound hw₁).outcome_of_handler hmoment.next
          rw [hmoment.turn.link.2, (hw.number_of_place hp hh).1,
            Handler.outcome?_eq_some.mpr hended] at hend
          exact .inr ⟨0, hend⟩
      | closing due o =>
          refine hw.ends T hp (hresult.trans ?_)
          simpa [Activity.result?, Activity.bound?, Handler.result?, Handler.bound?, hphase]
            using hb'
      | ended o =>
          refine hw.ends T hp (hresult.trans ?_)
          simpa [Activity.result?, Activity.bound?, Handler.result?, Handler.bound?, hphase]
            using hb'
      | _ => simp [Activity.bound?, Handler.bound?, hphase] at hb'
  | done o => exact hw.ends T hp (hresult.trans hb')
  | _ => cases hb'

/-! ## §4. Moments that bind a link. -/

/-- The handler of a connection makes its first move on a stopped node. -/
inductive RefusesToBegin (n t : Nat) (w : World σ) : Act σ → Prop
  | task {h : Handler} : w.handler? t = some h → h.number = n → h.phase = .fresh →
      w.manager.isStopped = true → RefusesToBegin n t w (.task t)

/-- The engine that has a connection returns: of itself, or as it pleases. -/
inductive EngineReturns (n t : Nat) (result : Except String Unit) (w : World σ) : Act σ → Prop
  | task {h : Handler} {wire : Wire} {entry : Handle} {session : Engine.Session}
      {notices : List Notice} : w.handler? t = some h → h.number = n →
      w.wire? n = some wire → h.phase = .tunnelling entry session →
      session.step wire = .returned result notices → EngineReturns n t result w (.task t)
  | tunnel {h : Handler} {entry : Handle} {session : Engine.Session} :
      w.handler? t = some h → h.number = n → h.phase = .tunnelling entry session →
      EngineReturns n t result w (.tunnel t (.finish result))

/-- The handler of a connection turns the peer away because of the
allow-list. -/
inductive Forbids (n t : Nat) (w : World σ) : Act σ → Prop
  | task {h : Handler} {octets : Bytes} {peer : Frame} : w.handler? t = some h → h.number = n →
      h.phase = .received octets → Frame.decode octets = .ok peer →
      Handler.verdict h.link h.settings peer = .notAllowed → Forbids n t w (.task t)

/-- An engine leaves its connection only by a return. -/
theorem Brings.engineReturns {h : Handler} {wire : Wire} {move : Handler.Move} {entry : Handle}
    {session : Engine.Session} (hb : Brings w.manager.toNode wire h t a move)
    (hh : w.handler? t = some h) (hn : h.number = n) (hwire : w.wire? n = some wire)
    (hp : h.phase = .tunnelling entry session) {entry' : Handle}
    (hleaves : move.handler.phase = .leaving entry' result) : EngineReturns n t result w a := by
  have hprogress : ∀ {progress : Engine.Progress} {entry₀ : Handle},
      h.afterEngine w.manager.toNode wire entry₀ progress = some move →
      ∃ notices, progress = .returned result notices := by
    intro progress entry₀ hm
    cases progress with
    | waiting => cases hm
    | going session' wire' =>
        cases hm
        cases hleaves
    | returned result' notices =>
        cases hm
        cases hleaves
        exact ⟨notices, rfl⟩
    | collapsed =>
        cases hm
        cases hleaves
  cases hb with
  | task hm =>
      rw [Handler.step, hp] at hm
      obtain ⟨notices, hreturned⟩ := hprogress hm
      exact .task hh hn hwire hp hreturned
  | @tunnel what _ _ _ _ hm =>
      obtain ⟨notices, hreturned⟩ := hprogress hm
      -- Whatever else it does, it goes on.
      cases what with
      | finish result' =>
          cases hreturned
          exact .tunnel hh hn hp
      | drop => cases hreturned
      | collapse => cases hreturned
      | _ =>
          unfold EngineAct.progress at hreturned
          dsimp only at hreturned
          split at hreturned <;> cases hreturned

/-- What is brought about of a handler is what comes next. -/
theorem Brings.next (T : Transport σ) (hw : w.Sound me) {h : Handler} {wire : Wire}
    {move : Handler.Move} (hb : Brings w.manager.toNode wire h t a move)
    (hh : w.handler? t = some h) (hwire : w.wire? h.number = some wire) :
    (w.act T a).handler? t = some move.handler := by
  cases hb with
  | task hm => exact (act_task T hw hh hwire hm).next
  | @tunnel what entry session _ hp hm =>
      obtain ⟨origin, ht⟩ := find?_of_handler? hh
      rw [act_tunnel_eq T ht hwire what, hp]
      dsimp only
      rw [hm]
      exact (handler?_put _ _ _ _).trans (if_pos rfl)

/-- **Whoever gets a connection back from its engine leaves with what the engine
returned.** -/
theorem EngineReturns.left (hr : EngineReturns n t result w a) (T : Transport σ)
    (hw : w.Sound me) : (w.act T a).Left n t (Handler.outcomeOf result) := by
  -- What the engine's return is to the handler.
  have hbrings : ∃ h wire entry move, w.handler? t = some h ∧ h.number = n ∧
      w.wire? h.number = some wire ∧ Brings w.manager.toNode wire h t a move ∧
      move.handler.phase = .leaving entry result := by
    cases hr with
    | @task h wire entry session notices hh hn hwire hp hstep =>
        have hm : h.step w.manager.toNode wire =
            h.afterEngine w.manager.toNode wire entry (.returned result notices) := by
          rw [Handler.step, hp, ← hstep]
          rfl
        exact ⟨h, wire, entry, _, hh, hn, hn ▸ hwire, .task hm, rfl⟩
    | @tunnel h entry session hh hn hp =>
        obtain ⟨_, wire, -, hwire, -, -⟩ := hw.tends hh
        exact ⟨h, wire, entry, _, hh, hn, hwire, .tunnel hp rfl, rfl⟩
  obtain ⟨h, wire, entry, move, hh, rfl, hwire, hb, hleaves⟩ := hbrings
  have hc := act_change T hw a
  have hp := hc.place hw (hw.holders t h hh)
  have hnext := hb.next T hw hh hwire
  refine ⟨?_, fun h' hh' due o hclosing => ?_⟩
  · rw [bound_of_handler hp hnext, Handler.bound?, hleaves]
  · cases hnext.symm.trans hh'
    cases hleaves.symm.trans hclosing

/-- **Whoever is turned away because of the allow-list is bound to finish.** -/
theorem Forbids.bound (h : Forbids n t w a) (T : Transport σ) (hw : w.Sound me) :
    (w.act T a).bound? n = some .finished := by
  obtain ⟨hh, rfl, hp, hd, hv⟩ := h
  obtain ⟨_, wire, -, hwire, -, -⟩ := hw.tends hh
  have hmoment := act_task T hw hh hwire (by rw [Handler.step, hp])
  have hc := act_change T hw (.task t)
  rw [bound_of_handler (hc.place hw (hw.holders t _ hh)) hmoment.next]
  have hturn := hmoment.turn
  generalize Handler.decide _ _ _ _ = move at hturn
  cases hturn with
  | turnAway hp' hd' hr =>
      cases hp.symm.trans hp'
      cases hd.symm.trans hd'
      cases hr with
      | notAllowed => rfl
      | incompatible hv' => cases hv.symm.trans hv'
      | notPinned hv' => cases hv.symm.trans hv'
  | validate hp' hd' hv' =>
      cases hp.symm.trans hp'
      cases hd.symm.trans hd'
      cases hv.symm.trans hv'
  | giveUp hg =>
      rw [hp] at hg
      cases hg
  | _ => simp_all

/-! ## §5. All runs. -/

/-- Only a stopped node refuses a link for the stop. -/
theorem Binds.refuses (h : Binds n t (.failed .stopped) w a) : RefusesToBegin n t w a := by
  obtain ⟨hh, hn, -, hb, hc⟩ := h
  generalize hout : Outcome.failed .stopped = outcome at hc
  cases hc with
  | stopped hp hs =>
      cases hb with
      | task => exact .task hh hn hp hs
      | tunnel hp' => cases hp.symm.trans hp'
  | broken hg =>
      cases hout
      cases hg.exchangeError
  | turnedAway _ _ hr => cases hr <;> cases hout
  | duplicate => cases hout
  | @returned _ _ result => cases result <;> cases hout
  | collapsed => cases hout

/-- Only an engine makes a tunnel fail. -/
theorem Binds.engineReturns {e : String} (h : Binds n t (.failed (.tunnel e)) w a) :
    EngineReturns n t (.error e) w a := by
  obtain ⟨hh, hn, hwire, hb, hc⟩ := h
  generalize hout : Outcome.failed (.tunnel e) = outcome at hc
  cases hc with
  | stopped => cases hout
  | broken hg =>
      cases hout
      cases hg.exchangeError
  | turnedAway _ _ hr => cases hr <;> cases hout
  | duplicate => cases hout
  | @returned _ _ result hp hleaves =>
      cases result with
      | ok => cases hout
      | error reason =>
          cases hout
          exact hb.engineReturns hh hn hwire hp hleaves
  | collapsed => cases hout

/-- Whoever finishes has had its life, or the allow-list was against it. -/
theorem Binds.finishes (h : Binds n t .finished w a) :
    EngineReturns n t (.ok ()) w a ∨ Forbids n t w a := by
  obtain ⟨hh, hn, hwire, hb, hc⟩ := h
  generalize hout : Outcome.finished = outcome at hc
  cases hc with
  | stopped => cases hout
  | broken => cases hout
  | turnedAway hp hd hr =>
      cases hr with
      | notAllowed hv =>
          cases hb with
          | task => exact .inr (.task hh hn hp hd hv)
          | tunnel hp' => cases hp.symm.trans hp'
      | incompatible => cases hout
      | notPinned => cases hout
  | duplicate => cases hout
  | @returned _ _ result hp hleaves =>
      cases result with
      | ok => exact .inl (hb.engineReturns hh hn hwire hp hleaves)
      | error reason => cases hout
  | collapsed => cases hout

/-- The task that an engine's return is about has the connection. -/
theorem EngineReturns.place (h : EngineReturns n t result w a) (hw : w.Sound me) :
    w.place n = .taken t := by
  cases h with
  | task hh hn => exact hn ▸ hw.holders t _ hh
  | tunnel hh hn => exact hn ▸ hw.holders t _ hh

theorem Forbids.place (h : Forbids n t w a) (hw : w.Sound me) : w.place n = .taken t := by
  obtain ⟨hh, hn, -⟩ := h
  exact hn ▸ hw.holders t _ hh

/-- After its engine has returned, a link is bound to what was returned. -/
theorem left_of_engineReturns (T : Transport σ) (hw : w.Sound me)
    (h : Happens T w acts (EngineReturns n t result)) :
    (w.run T acts).Left n t (Handler.outcomeOf result) := by
  obtain ⟨l, a, l', rfl, hr⟩ := h
  have hw₁ := hw.run T l
  have hc := act_change T hw₁ a
  rw [run_append]
  exact left_run T (hc.sound hw₁) (hc.place hw₁ (hr.place hw₁)) (hr.left T hw₁) l'

/-- After the allow-list was against it, a link is bound to finish, unless it
is cancelled. -/
theorem bound_of_forbids (T : Transport σ) (hw : w.Sound me)
    (h : Happens T w acts (Forbids n t)) :
    (w.run T acts).bound? n = some .finished ∨
      (w.run T acts).bound? n = some .cancelled ∧ .cancel t ∈ acts := by
  obtain ⟨l, a, l', rfl, hf⟩ := h
  have hw₁ := hw.run T l
  have hc := act_change T hw₁ a
  rw [run_append]
  exact (bound_run T (hc.sound hw₁) (hc.place hw₁ (hf.place hw₁)) (hf.bound T hw₁) l').imp_right
    fun hb => ⟨hb.1, by simp [hb.2]⟩

/-- What a link ended with is not one of the failures that never happen. -/
theorem Sound.reachable (hw : w.Sound me) (ho : w.outcome? n = some outcome) :
    (∀ e, outcome ≠ .failed (.stateTransition e)) ∧ ∀ e, outcome ≠ .failed (.decode e) := by
  have hdead : ∀ cause, outcome = .failed cause →
      (∀ e, cause ≠ .stateTransition e) ∧ ∀ e, cause ≠ .decode e := by
    rintro cause rfl
    obtain ⟨_, _, -, -, hover⟩ := hw.over_of_outcome ho
    exact hover.reachable
  exact ⟨fun e he => (hdead _ he).1 e rfl, fun e he => (hdead _ he).2 e rfl⟩

/-- **A failed tunnel is what its engine returned**, and the other way round. -/
theorem tunnel_iff (T : Transport σ) (hw : w.Sound me) (hn : ∀ s, w.place n ≠ .taken s)
    (hp : (w.run T acts).place n = .taken t) (hb : (w.run T acts).bound? n = some outcome)
    (e : String) :
    outcome = .failed (.tunnel e) ↔ Happens T w acts (EngineReturns n t (.error e)) := by
  constructor
  · rintro rfl
    exact (exists_binds T hw hn hp hb (by simp)).mono fun _ _ hbinds => hbinds.engineReturns
  · intro hr
    cases hb.symm.trans (left_of_engineReturns T hw hr).bound
    rfl

/-- **A link that was not cancelled finishes if and only if** the engine had
nothing to complain of, or the allow-list was against the peer. -/
theorem finished_iff (T : Transport σ) (hw : w.Sound me) (hn : ∀ s, w.place n ≠ .taken s)
    (hp : (w.run T acts).place n = .taken t) (hb : (w.run T acts).bound? n = some outcome)
    (hcan : outcome ≠ .cancelled) :
    outcome = .finished ↔
      Happens T w acts (EngineReturns n t (.ok ())) ∨ Happens T w acts (Forbids n t) := by
  constructor
  · rintro rfl
    obtain ⟨l, a, l', hl, hbinds⟩ := exists_binds T hw hn hp hb hcan
    exact hbinds.finishes.imp (fun hr => ⟨l, a, l', hl, hr⟩) fun hf => ⟨l, a, l', hl, hf⟩
  · rintro (hr | hf)
    · cases hb.symm.trans (left_of_engineReturns T hw hr).bound
      rfl
    · rcases bound_of_forbids T hw hf with hbound | ⟨hbound, -⟩
      · cases hb.symm.trans hbound
        rfl
      · cases hb.symm.trans hbound
        exact absurd rfl hcan

/-- **Every link goes through its stages in their order, and ends for a
cause.**  In every run, of the link that was made of any connection,

  • the stages are a walk that leads to where the handler is,
  • a refused transition or a frame that cannot be read is never what it ends
    with, and the stop only if its handler began on a stopped node,
  • a failed tunnel is what it ends with if and only if the engine had the
    connection and returned this failure,
  • it finishes if and only if the engine returned, or the allow-list was
    against the peer, unless it was cancelled,
  • and after such a moment it has ended or does so. -/
theorem outcome_has_cause (T : Transport σ) (me : Identity) (settings : Settings)
    (engine : Engine) (state : σ) (acts : List (Act σ)) :
    let w₀ := start me settings engine state
    let w := w₀.run T acts
    ∀ n t, w.place n = .taken t →
      Stage.IsWalk (.created :: w₀.stages T n acts) ∧
      (∀ h, w.handler? t = some h →
        (.created :: w₀.stages T n acts).getLast? = some h.stage) ∧
      (∀ result, Happens T w₀ acts (EngineReturns n t result) →
        w.EndsWith T n t (Handler.outcomeOf result)) ∧
      (Happens T w₀ acts (Forbids n t) →
        w.EndsWith T n t .finished ∨ w.EndsWith T n t .cancelled ∧ .cancel t ∈ acts) ∧
      ∀ outcome, w.outcome? n = some outcome →
        (∀ e, outcome ≠ .failed (.stateTransition e)) ∧ (∀ e, outcome ≠ .failed (.decode e)) ∧
        (outcome = .failed .stopped → Happens T w₀ acts (RefusesToBegin n t)) ∧
        (∀ e, outcome = .failed (.tunnel e) ↔
          Happens T w₀ acts (EngineReturns n t (.error e))) ∧
        (outcome ≠ .cancelled → (outcome = .finished ↔
          Happens T w₀ acts (EngineReturns n t (.ok ())) ∨ Happens T w₀ acts (Forbids n t))) := by
  intro w₀ w n t hp
  have hw₀ : w₀.Sound me := sound_start me settings engine state
  have hw : w.Sound me := hw₀.run T acts
  have hfree : ∀ s, w₀.place n ≠ .taken s := fun s hs => by cases hs
  have htrails : Trails n w (.created :: w₀.stages T n acts) :=
    trails_run T hw₀ (trails_start me settings engine state n) acts
  refine ⟨htrails.isWalk, fun h hh => ?_, fun result hr => ?_, fun hf => ?_, fun outcome ho => ?_⟩
  · exact (htrails.walked h ((handlerOf?_of_place hp).trans hh)).last
  · exact hw.ends_of_bound T hp (left_of_engineReturns T hw₀ hr).bound
  · exact (bound_of_forbids T hw₀ hf).imp (hw.ends_of_bound T hp)
      fun hb => ⟨hw.ends_of_bound T hp hb.1, hb.2⟩
  · have hbound : w.bound? n = some outcome := bound_of_outcome ho
    obtain ⟨htransition, hdecode⟩ := hw.reachable ho
    refine ⟨htransition, hdecode, ?_, tunnel_iff T hw₀ hfree hp hbound,
      finished_iff T hw₀ hfree hp hbound⟩
    rintro rfl
    exact (exists_binds T hw₀ hfree hp hbound (by simp)).mono fun _ _ hb => hb.refuses

/-- The same node with an engine that fails at once. -/
def reluctantNode : World Script := start (.replicate 0xaa) {} (.refuse "no") {}

/-- A connection is accepted and handed over, the engine returns, and the
handler leaves. -/
def refusedByEngine : List (Act Script) := acceptAndSend ++ answer ++ List.replicate 2 (.task 0)

/-- The link goes through all stages, and ends with the failure that the engine
returned. -/
theorem outcome_has_cause_refused :
    (reluctantNode.run Script.transport refusedByEngine).place 0 = .taken 0 ∧
    reluctantNode.stages Script.transport 0 refusedByEngine =
      [.metadataSent, .metadataReceived, .validated, .registered, .active, .closed] ∧
    (reluctantNode.run Script.transport refusedByEngine).outcome? 0 =
      some (.failed (.tunnel "no")) ∧
    Happens Script.transport reluctantNode refusedByEngine
      (EngineReturns 0 0 (.error "no")) := by
  have hp : (reluctantNode.run Script.transport refusedByEngine).place 0 = .taken 0 := by
    decide +kernel
  have ho : (reluctantNode.run Script.transport refusedByEngine).outcome? 0 =
      some (.failed (.tunnel "no")) := by
    decide +kernel
  have h := outcome_has_cause Script.transport (.replicate 0xaa) {} (.refuse "no") {}
    refusedByEngine 0 0 hp
  obtain ⟨-, -, -, -, houtcome⟩ := h
  obtain ⟨-, -, -, htunnel, -⟩ := houtcome _ ho
  exact ⟨hp, by decide +kernel, ho, (htunnel "no").mp rfl⟩

end World

end LinkLayer

/-
  LinkLayer.Proofs.World.Unbegun
  ──────────────────────────────
  **LINKS THAT HAVE NOT BEGUN.**

  A link without a deed on record has not begun: it waits for its first move,
  or was refused by that, or was cancelled.  In every run,

    • `silent_run` — nothing was sent on its connection,
    • `dormant_run` — and its handler did nothing with the wire but close it,
      if it was refused, or drop it, if it was cancelled.
-/
import LinkLayer.Proofs.World.Conduct
import LinkLayer.Proofs.World.Progress

namespace LinkLayer

/-! ## §1. Whoever sends has begun. -/

/-- A turn that leaves the record blank sends nothing. -/
theorem Handler.Turn.sent_of_blank {node : Node} {wire : Wire} {h : Handler} {move : Move}
    (ht : h.Turn node wire move) (hc : h.Chronicle []) : move.wire.sent = wire.sent := by
  unfold Chronicle at hc
  cases ht with
  | send hp hw => simp [hp] at hc
  | receive hp hl hr hb => simp [hp] at hc
  | carryOn hp he => simp [hp, servedLog] at hc
  | finish hp hcl => exact wire.sent_shutdown
  | _ => rfl

namespace World

open Stroke

variable {σ : Type} {T : Transport σ} {me : Identity} {w w' : World σ} {a : Act σ} {n t : Nat}
  {log : List Stroke}

/-- Nothing was sent on a connection without a record. -/
def Silent (w : World σ) : Prop := ∀ n, w.deedsOf n = [] → w.sentAt n = []

/-- A wire is changed by something that sends nothing. -/
theorem sentAt_of_map {f : Wire → Wire} (hf : ∀ wire : Wire, (f wire).sent = wire.sent)
    (h : w'.wire? n = (w.wire? n).map f) : w'.sentAt n = w.sentAt n := by
  unfold sentAt
  rw [h]
  cases w.wire? n with
  | none => rfl
  | some wire => exact hf wire

theorem sentAt_of_same (h : w'.wire? n = w.wire? n) : w'.sentAt n = w.sentAt n := by
  unfold sentAt
  rw [h]

theorem sentAt_onWire (w : World σ) (k n : Nat) {f : Wire → Wire}
    (hf : ∀ wire : Wire, (f wire).sent = wire.sent) :
    (w.onManager (·.onWire k f)).sentAt n = w.sentAt n := by
  have hwire := wire?_onWire w k n f
  split at hwire
  · exact sentAt_of_map hf hwire
  · exact sentAt_of_same hwire

/-- A wire is replaced by one on which as much was sent. -/
theorem sentAt_of_put {k : Nat} {wire wire' : Wire} (hwire : w.wire? k = some wire)
    (hput : w'.manager.wires = w.manager.wires.put k wire')
    (hs : n = k → wire'.sent = wire.sent) : w'.sentAt n = w.sentAt n := by
  have hfind : w'.wire? n = if n = k then some wire' else w.wire? n :=
    (congrArg (·.find? n) hput).trans (Table.find?_put _ _ _ _)
  split at hfind
  · next hk =>
      subst hk
      unfold sentAt
      rw [hwire, hfind]
      exact hs rfl
  · exact sentAt_of_same hfind

/-- A remote end does not send for the link's own end. -/
theorem sent_apply (what : RemoteAct) (wire : Wire) : (what.apply wire).sent = wire.sent := by
  cases what with
  | write octets =>
      simp only [RemoteAct.apply, Wire.remoteWrite]
      split <;> rfl
  | _ => rfl

/-- **An act that leaves a record blank sends nothing.** -/
theorem Change.sentAt_of_blank (hc : Change w a w') (hw : w.Sound me)
    (hn : w'.deedsOf n = []) : w'.sentAt n = w.sentAt n := by
  have hdrop : ∀ wire : Wire, wire.drop.sent = wire.sent := fun _ => rfl
  cases hc with
  | keep hm =>
      rcases hm.wires n with hwire | hwire
      · exact sentAt_of_same hwire
      · exact sentAt_of_map hdrop hwire
  | remote k what => exact sentAt_onWire w k n (sent_apply what)
  | make kind name source remote capacity faults =>
      have hwire : (w.make kind name source remote capacity faults).wire? n =
          if n = w.next then some (Wire.new capacity faults) else w.wire? n :=
        Table.find?_put _ _ _ _
      split at hwire
      · next hk =>
          -- A new wire is empty, and there was none before.
          unfold sentAt
          rw [hwire, hw.unwired n (Nat.le_of_eq hk.symm)]
          rfl
      · exact sentAt_of_same hwire
  | @discard _ c => exact sentAt_onWire w c.wire n hdrop
  | take _ _ _ _ _ hm => exact sentAt_of_same (congrArg (·.find? n) hm.wires)
  | idle _ _ hm => exact sentAt_of_same (congrArg (·.find? n) hm.wires)
  | move _ ht hwire hturn =>
      refine sentAt_of_put hwire rfl ?_
      rintro rfl
      obtain ⟨_, _, -, -, -, htends⟩ := hw.tends (handler?_of_find? ht)
      -- The record was blank before.
      rw [deedsOf, List.filterMap_append, List.append_eq_nil_iff] at hn
      exact hturn.sent_of_blank (hn.1 ▸ htends.chronicle)
  | cancel _ hwire =>
      refine sentAt_of_put hwire rfl fun _ => ?_
      unfold Handler.cancel
      split <;> rfl
  | enqueue => exact sentAt_of_same rfl
  | pop => exact sentAt_of_same rfl
  | spawn => exact sentAt_of_same rfl
  | conclude => exact sentAt_of_same rfl

theorem silent_act (T : Transport σ) (hw : w.Sound me) (hs : w.Silent) (a : Act σ) :
    (w.act T a).Silent := by
  intro n hn
  have hc := act_change T hw a
  have hblank : w.deedsOf n = [] := List.prefix_nil.mp (hn ▸ deedsOf_run hw [a] n)
  rw [hc.sentAt_of_blank hw hn]
  exact hs n hblank

/-- **In every run, whoever sends has begun.** -/
theorem silent_run (T : Transport σ) (me : Identity) (settings : Settings) (engine : Engine)
    (state : σ) (acts : List (Act σ)) :
    ((start me settings engine state).run T acts).Silent := by
  refine (sound_start me settings engine state).run_keeps T ?_ (fun _ _ => rfl) acts
  intro w a hw hs
  exact silent_act T hw hs a

/-! ## §2. Links without a deed. -/

/-- What a link that has not begun does with its wire in the end: it closes it
if it was refused, and drops it if it was cancelled. -/
inductive Shut : Outcome → List Stroke → Prop
  | stopped : Shut (.failed .stopped) [.shutDown, .drop]
  | cancelled : Shut .cancelled [.drop]

/-- What a task is at whose link has not begun, and the strokes of the link. -/
inductive Unbegun (log : List Stroke) : Activity → Prop
  | fresh {h : Handler} : h.phase = .fresh → log = [] → Unbegun log (.handling h)
  | closing {h : Handler} {due : Nat} : h.phase = .closing due (.failed .stopped) → log = [] →
      Unbegun log (.handling h)
  | ended {h : Handler} {outcome : Outcome} : h.phase = .ended outcome → Shut outcome log →
      Unbegun log (.handling h)
  | done {outcome : Outcome} : Shut outcome log → Unbegun log (.done outcome)

/-- A turn of a handler that leaves the record blank refuses the link, or
closes its connection. -/
theorem Unbegun.turn {node : Node} {wire : Wire} {h : Handler} {move : Handler.Move}
    (hu : Unbegun log (.handling h)) (ht : h.Turn node wire move)
    (hd : h.deeds node move = []) :
    Unbegun (log ++ h.strokes wire) (.handling move.handler) := by
  cases hu with
  | fresh hp hlog =>
      have hnone : h.strokes wire = [] := by simp [Handler.strokes, hp]
      rw [hnone, List.append_nil]
      cases ht with
      | refuse _ hs => exact .closing rfl hlog
      | begin _ hs => simp [Handler.deeds, hp, hs] at hd
      | giveUp hg =>
          rw [hp] at hg
          cases hg
      | _ => simp_all
  | closing hp hlog =>
      cases ht with
      | @finish _ outcome _ hphase _ =>
          cases hp.symm.trans hphase
          rw [hlog, Handler.strokes, hp]
          exact .ended rfl .stopped
      | giveUp hg =>
          rw [hp] at hg
          cases hg
      | _ => simp_all
  | ended hp =>
      have hnone := ht.outcome_none
      rw [Handler.outcome?_eq_some.mpr hp] at hnone
      cases hnone

/-- A link that is cancelled before it began drops its wire, if it still has
it. -/
theorem Unbegun.cancel {h : Handler} (hu : Unbegun log (.handling h)) (hs : h.Staged)
    (node : Node) (wire : Wire) :
    Unbegun (log ++ h.parting) (.done ((h.cancel node wire).handler.outcome?.getD .cancelled)) := by
  have hopen : h.isOpen = true → log = [] →
      Unbegun (log ++ h.parting)
        (.done ((h.cancel node wire).handler.outcome?.getD .cancelled)) := by
    intro ho hlog
    have hnone := Handler.outcome?_of_isOpen ho
    have hwire := (hs.holdsWire_eq hnone).trans ho
    have hparting : h.parting = [.drop] := by simp [Handler.parting, hnone, hwire]
    have houtcome : (h.cancel node wire).handler.outcome? = some .cancelled := by
      rw [Handler.cancel, hnone]
      rfl
    rw [hparting, houtcome, hlog]
    exact .done .cancelled
  cases hu with
  | fresh hp hlog => exact hopen (by simp [Handler.isOpen, hp]) hlog
  | closing hp hlog => exact hopen (by simp [Handler.isOpen, hp]) hlog
  | @ended _ outcome hp hshut =>
      have hsome := Handler.outcome?_eq_some.mpr hp
      have hparting : h.parting = [] := by simp [Handler.parting, hsome]
      have hsame : (h.cancel node wire).handler = h := by
        rw [Handler.cancel, hsome]
      rw [hparting, List.append_nil, hsame, hsome]
      exact .done hshut

/-- A connection whose link has not begun, with the strokes of that link. -/
structure Dormant (w : World σ) (n : Nat) (log : List Stroke) : Prop where
  idle : (∀ t, w.place n ≠ .taken t) → log = []
  taken : ∀ t task, w.place n = .taken t → w.manager.tasks.find? t = some task →
    Unbegun log task.activity

/-- **An act that leaves the record blank leaves the connection dormant.** -/
theorem Dormant.act (hd : w.Dormant n log) (T : Transport σ) (hw : w.Sound me) {a : Act σ}
    (hblank : (w.act T a).deedsOf n = []) :
    (w.act T a).Dormant n (log ++ w.strokesIn n a) := by
  have hc := act_change T hw a
  by_cases hp : ∃ t, w.place n = .taken t
  · obtain ⟨t, hp⟩ := hp
    have hplace := hc.place hw hp
    -- Of the task that has the connection, all is in what the act does with it.
    have hgoal : ∀ {w' : World σ} {log' : List Stroke}, w'.place n = .taken t →
        (∀ task, w'.manager.tasks.find? t = some task → Unbegun log' task.activity) →
        w'.Dormant n log' := by
      intro w' log' hp' hu
      refine ⟨fun hfree => absurd hp' (hfree t), fun k task hk ht => ?_⟩
      cases hp'.symm.trans hk
      exact hu task ht
    have hdeals := act_deals T hw hp a
    generalize w.act T a = w' at hdeals hplace hblank
    refine hgoal hplace fun task' ht' => ?_
    cases hdeals with
    | aside ha htask =>
        rw [strokesIn_of_aside hw hp ha, List.append_nil]
        exact hd.taken t task' hp (htask ▸ ht')
    | remote what =>
        show Unbegun (log ++ []) _
        rw [List.append_nil]
        exact hd.taken t task' hp ht'
    | rest hf hn hwire hrests =>
        rw [strokesIn_of_rests hf hwire hrests, List.append_nil]
        exact hd.taken t task' hp ht'
    | done hf ha =>
        rw [strokesIn_of_over (handler?_of_find? hf) ha, List.append_nil]
        exact hd.taken t task' hp ht'
    | @move _ origin h wire move hf hn hwire hb =>
        obtain ⟨_, -, -, htends⟩ := hw.tends_on (handler?_of_find? hf) hn hwire
        rw [deedsOf_append, if_pos rfl, List.append_eq_nil_iff] at hblank
        cases (Table.find?_put_self _ _ _).symm.trans ht'
        rw [strokesIn_of_brings hf hn hwire hb]
        exact (hd.taken t _ hp hf).turn (hb.turn htends.staged) hblank.2
    | @conclude origin h outcome hf hn ho =>
        cases (Table.find?_put_self _ _ _).symm.trans ht'
        rw [strokesIn_of_ended hf ho, List.append_nil]
        have hphase := Handler.outcome?_eq_some.mp ho
        cases hd.taken t _ hp hf with
        | fresh hp' => cases hp'.symm.trans hphase
        | closing hp' => cases hp'.symm.trans hphase
        | ended hp' hshut =>
            cases hp'.symm.trans hphase
            exact .done hshut
    | @cancel origin h wire hf hn hwire hbusy =>
        obtain ⟨_, -, -, htends⟩ := hw.tends_on (handler?_of_find? hf) hn hwire
        cases (Table.find?_put_self _ _ _).symm.trans ht'
        rw [strokesIn_of_cancel hf hn hbusy]
        exact (hd.taken t _ hp hf).cancel htends.staged _ _
  · have hfree := not_exists.mp hp
    rw [strokesIn_of_idle hw hfree, List.append_nil, hd.idle hfree]
    refine ⟨fun _ => rfl, fun t task hp' ht' => ?_⟩
    -- Whoever gets a connection begins with a fresh handler.
    obtain ⟨h, hh, -, hfresh⟩ := hc.fresh_of_taken hfree hp'
    obtain ⟨origin, activity⟩ := task
    rw [handler?_of_find? ht'] at hh
    cases activity with
    | handling handler =>
        cases hh
        exact .fresh hfresh rfl
    | _ => cases hh

/-- **So does a run.** -/
theorem Dormant.run (hd : w.Dormant n log) (T : Transport σ) (hw : w.Sound me)
    {acts : List (Act σ)} (hblank : (w.run T acts).deedsOf n = []) :
    (w.run T acts).Dormant n (log ++ w.strokes T n acts) := by
  induction acts generalizing w log with
  | nil =>
      show w.Dormant n (log ++ [])
      rw [List.append_nil]
      exact hd
  | cons a rest ih =>
      have hw' := (act_change T hw a).sound hw
      -- A record that is blank at the end was blank all the time.
      have hnow : (w.act T a).deedsOf n = [] :=
        List.prefix_nil.mp (hblank ▸ deedsOf_run hw' rest n)
      have hnext := ih (hd.act T hw hnow) hw' hblank
      rw [List.append_assoc] at hnext
      exact hnext

theorem dormant_run (T : Transport σ) (me : Identity) (settings : Settings) (engine : Engine)
    (state : σ) (acts : List (Act σ)) (n : Nat)
    (hblank : ((start me settings engine state).run T acts).deedsOf n = []) :
    ((start me settings engine state).run T acts).Dormant n
      ((start me settings engine state).strokes T n acts) := by
  have hstart : (start me settings engine state).Dormant n [] := by
    refine ⟨fun _ => rfl, fun t task hp _ => ?_⟩
    cases hp
  exact hstart.run T (sound_start me settings engine state) hblank

end World

end LinkLayer

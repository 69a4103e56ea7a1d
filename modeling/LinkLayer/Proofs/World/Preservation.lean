/-
  LinkLayer.Proofs.World.Preservation
  ───────────────────────────────────
  **SOUND WORLDS STAY SOUND.**

  One lemma for each kind of change; most of them are one of the four ways to
  stay sound, with the particulars filled in.

    • `Change.sound` — every change keeps the world sound,
    • `Sound.run_keeps` — the induction over a run,
    • `Sound.run`, `sound_run` — so a world is sound after any run.
-/
import LinkLayer.Proofs.World.Change

namespace LinkLayer.World

variable {σ : Type} {me : Identity} {w w' : World σ} {a : Act σ}

/-! ## §1. Every change keeps the world sound. -/

/-- What was done at the link's end is not the remote end's to change. -/
theorem record_apply (wire : Wire) (what : RemoteAct) :
    (what.apply wire).record = wire.record := by
  cases what with
  | write bs =>
      show (((wire.remoteWrite bs).map (·.2)).getD wire).record = _
      cases hw : wire.remoteWrite bs with
      | none => rfl
      | some r => exact Wire.record_remoteWrite hw
  | read count => rfl
  | shutDown => rfl
  | drop => rfl

/-- A wire is changed, and its record is the same. -/
theorem record_onWire (w : World σ) (n : Nat) {f : Wire → Wire}
    (hf : ∀ wire, (f wire).record = wire.record) (k : Nat) :
    ((w.onManager (·.onWire n f)).wire? k).map Wire.record =
      (w.wire? k).map Wire.record := by
  show ((w.manager.wires.modify n f).find? k).map Wire.record = _
  rw [Table.find?_modify]
  split
  · show ((w.wire? k).map f).map Wire.record = _
    cases w.wire? k with
    | none => rfl
    | some wire => exact congrArg some (hf wire)
  · rfl

theorem keep_sound (hw : w.Sound me) {m : Manager σ} (hm : w.manager.Keeps m) :
    Sound me { w with manager := m } := by
  refine hw.of_quiet rfl rfl rfl hm.identity hm.tasks hm.registry ?_ (fun _ _ => Iff.rfl)
    (fun n hn => (hw.fresh n hn).2) (hm.numbers hw.inlets) ?_ ?_
  · intro n
    show (m.wires.find? n).map _ = (w.manager.wires.find? n).map _
    rcases hm.wires n with hn | hn
    · rw [hn]
    · rw [hn, Option.map_map]
      rfl
  · intro j inlet hj c hc
    rcases hm.queues j inlet hj with hnil | ⟨inlet₀, hj₀, hq⟩
    · rw [hnil] at hc
      cases hc
    · exact hw.queued j inlet₀ hj₀ c (hq ▸ hc)
  · intro j inlet hj
    rcases hm.queues j inlet hj with hnil | ⟨inlet₀, hj₀, hq⟩
    · rw [hnil]
      exact List.nodup_nil
    · rw [hq]
      exact hw.queues j inlet₀ hj₀

theorem onWire_sound (hw : w.Sound me) (n : Nat) {f : Wire → Wire}
    (hf : ∀ wire, (f wire).record = wire.record) : (w.onManager (·.onWire n f)).Sound me :=
  hw.of_quiet rfl rfl rfl rfl rfl rfl (record_onWire w n hf) (fun _ _ => Iff.rfl)
    (fun n hn => (hw.fresh n hn).2) hw.inlets hw.queued hw.queues

theorem remote_sound (hw : w.Sound me) (n : Nat) (what : RemoteAct) :
    (w.onManager (·.onWire n what.apply)).Sound me :=
  onWire_sound hw n fun wire => record_apply wire what

/-- A loose connection goes to someone who is no task; its place is not one
that a queue could know. -/
theorem place_give {n : Nat} {place : Place} (hp : w.place n = .loose)
    (hplace : ∀ t, place ≠ .taken t) (k t : Nat) :
    Function.update w.place n place k = .taken t ↔ w.place k = .taken t := by
  by_cases hk : k = n
  · subst hk
    simp [hp, hplace]
  · simp [hk]

theorem fresh_give (hw : w.Sound me) {c : Connection} (hc : w.connection c.wire = some c)
    (place : Place) (n : Nat) (hn : w.next ≤ n) :
    Function.update w.place c.wire place n = .unmade := by
  obtain ⟨hcn, hpn⟩ := hw.fresh n hn
  have hne : n ≠ c.wire := by
    rintro rfl
    rw [hc] at hcn
    cases hcn
  rw [Function.update_of_ne hne, hpn]

theorem discard_sound (hw : w.Sound me) {c : Connection} (hp : w.place c.wire = .loose)
    (hc : w.connection c.wire = some c) :
    (give (w.onManager (·.onWire c.wire Wire.drop)) c.wire .discarded).Sound me := by
  refine hw.of_quiet rfl rfl rfl rfl rfl rfl (record_onWire w c.wire Wire.record_drop)
    (place_give hp (fun _ h => nomatch h)) (fresh_give hw hc _) hw.inlets ?_ hw.queues
  intro j inlet hj c' hc'
  obtain ⟨hcon, hpl⟩ := hw.queued j inlet hj c' hc'
  have hne : c'.wire ≠ c.wire := by
    intro he
    rw [he, hp] at hpl
    cases hpl
  exact ⟨hcon, (Function.update_of_ne hne _ _).trans hpl⟩

theorem enqueue_sound (hw : w.Sound me) {c : Connection} {j : Nat} {inlet : Inlet}
    (hp : w.place c.wire = .loose) (hc : w.connection c.wire = some c)
    (hj : w.manager.inlets.find? j = some inlet) :
    (give (w.onManager fun m =>
      { m with inlets := m.inlets.put j { inlet with queue := inlet.queue ++ [c] } })
      c.wire (.queued j)).Sound me := by
  -- No queue has the connection, since it is loose.
  have hnew : ∀ k inlet', w.manager.inlets.find? k = some inlet' → ∀ c' ∈ inlet'.queue,
      c'.wire ≠ c.wire := by
    intro k inlet' hk c' hc' he
    have hpl := (hw.queued k inlet' hk c' hc').2
    rw [he, hp] at hpl
    cases hpl
  have hold : ∀ k inlet', w.manager.inlets.find? k = some inlet' → ∀ c' ∈ inlet'.queue,
      w.connection c'.wire = some c' ∧
        Function.update w.place c.wire (.queued j) c'.wire = .queued k := by
    intro k inlet' hk c' hc'
    obtain ⟨hcon, hpl⟩ := hw.queued k inlet' hk c' hc'
    exact ⟨hcon, (Function.update_of_ne (hnew k inlet' hk c' hc') _ _).trans hpl⟩
  refine hw.of_quiet rfl rfl rfl rfl rfl rfl (fun _ => rfl)
    (place_give hp (fun _ h => nomatch h)) (fresh_give hw hc _)
    (Table.nodup_numbers_put hw.inlets _ _) ?_ ?_
  · intro k inlet' hk c' hc'
    replace hk : (w.manager.inlets.put j _).find? k = some inlet' := hk
    rw [Table.find?_put] at hk
    split at hk
    · next hkj =>
        cases hk
        rcases List.mem_append.mp hc' with hin | hin
        · exact hkj ▸ hold j inlet hj c' hin
        · rw [List.mem_singleton] at hin
          subst hin
          exact ⟨hc, (Function.update_self _ _ _).trans (hkj ▸ rfl)⟩
    · exact hold k inlet' hk c' hc'
  · intro k inlet' hk
    replace hk : (w.manager.inlets.put j _).find? k = some inlet' := hk
    rw [Table.find?_put] at hk
    split at hk
    · cases hk
      rw [List.map_append]
      refine List.nodup_append.mpr ⟨hw.queues j inlet hj, by simp, ?_⟩
      intro x hx y hy he
      obtain ⟨c', hc', rfl⟩ := List.mem_map.mp hx
      rw [List.map_singleton, List.mem_singleton] at hy
      exact hnew j inlet hj c' hc' (he.trans hy)
    · exact hw.queues k inlet' hk

theorem make_sound (hw : w.Sound me) (kind : Kind) (name source remote : String)
    (capacity : Nat) (faults : Faults) :
    (w.make kind name source remote capacity faults).Sound me := by
  obtain ⟨hcnext, hpnext⟩ := hw.fresh w.next (Nat.le_refl _)
  have hwire : ∀ n, (w.make kind name source remote capacity faults).wire? n =
      if n = w.next then some (Wire.new capacity faults) else w.wire? n := by
    intro n
    exact Table.find?_put _ _ _ _
  have hplace : ∀ n t, Function.update w.place w.next .loose n = .taken t ↔
      w.place n = .taken t := by
    intro n t
    by_cases hn : n = w.next
    · subst hn
      simp [hpnext]
    · simp [hn]
  -- What has a connection already is not the new number.
  have hold : ∀ n c, w.connection n = some c → n ≠ w.next := by
    rintro n c hc rfl
    rw [hcnext] at hc
    cases hc
  constructor
  case identity => exact hw.identity
  case fresh =>
      intro n hn
      have hlt : w.next < n := hn
      obtain ⟨hcn, hpn⟩ := hw.fresh n (Nat.le_of_lt hlt)
      have hne : n ≠ w.next := Nat.ne_of_gt hlt
      exact ⟨(Function.update_of_ne hne _ _).trans hcn, (Function.update_of_ne hne _ _).trans hpn⟩
  case unwired =>
      intro n hn
      have hlt : w.next < n := hn
      rw [hwire, if_neg (Nat.ne_of_gt hlt)]
      exact hw.unwired n (Nat.le_of_lt hlt)
  case made =>
      intro n c hc
      rw [hwire]
      replace hc : Function.update w.connection w.next _ n = some c := hc
      by_cases hn : n = w.next
      · subst hn
        rw [Function.update_self] at hc
        cases hc
        exact ⟨rfl, _, if_pos rfl⟩
      · rw [Function.update_of_ne hn] at hc
        rw [if_neg hn]
        exact hw.made n c hc
  case tasks =>
      intro t task ht
      obtain ⟨hlt, hor⟩ := hw.tasks t task ht
      have hne : t ≠ w.next := Nat.ne_of_lt hlt
      refine ⟨Nat.lt_succ_of_lt hlt, ?_⟩
      show Function.update w.connection w.next _ t = none ∨ _
      rw [Function.update_of_ne hne]
      exact hor.imp_right (hplace t t).mpr
  case inlets => exact hw.inlets
  case queued =>
      intro j inlet hj c hc
      obtain ⟨hcon, hpl⟩ := hw.queued j inlet hj c hc
      have hne := hold _ _ hcon
      exact ⟨(Function.update_of_ne hne _ _).trans hcon, (Function.update_of_ne hne _ _).trans hpl⟩
  case queues => exact hw.queues
  case idle =>
      intro n hn
      obtain ⟨hnil, hfired, hrec⟩ := hw.idle n fun t hp => hn t ((hplace n t).mpr hp)
      refine ⟨hnil, hfired, ?_⟩
      intro wire hwn
      rw [hwire] at hwn
      split at hwn
      · cases hwn
        rfl
      · exact hrec wire hwn
  case attended =>
      intro n t hp
      obtain ⟨c, wire, task, hcon, hwn, ht, hatt⟩ := hw.attended n t ((hplace n t).mp hp)
      have hne := hold _ _ hcon
      refine ⟨c, wire, task, (Function.update_of_ne hne _ _).trans hcon, ?_, ht, hatt⟩
      rw [hwire, if_neg hne]
      exact hwn
  case holders =>
      intro t h hh
      exact (hplace _ t).mpr (hw.holders t h hh)
  case proper => exact hw.proper
  case entries => exact hw.entries

theorem pop_sound (hw : w.Sound me) {j : Nat} {inlet : Inlet} {c : Connection}
    {queue : List Connection} (hj : w.manager.inlets.find? j = some inlet)
    (hq : inlet.queue = c :: queue) :
    (give (w.onManager fun m =>
      Manager.spawn { m with inlets := m.inlets.put j { inlet with queue } } c.wire
        (.inbound c.name) (.handling (Manager.handlerFor c true false {})))
      c.wire (.taken c.wire)).Sound me := by
  obtain ⟨hc, hp⟩ := hw.queued j inlet hj c (by rw [hq]; exact List.mem_cons_self)
  have hnodup := hw.queues j inlet hj
  rw [hq, List.map_cons, List.nodup_cons] at hnodup
  -- A queued connection is with no task, so the task of its number is new.
  have hfree : ∀ k, w.place c.wire ≠ .taken k := by
    intro k hk
    rw [hp] at hk
    cases hk
  have hnone := hw.no_task hc (hfree c.wire)
  have hlike : Manager.Like
      { w.manager with
        tasks := w.manager.tasks.put c.wire
          ⟨.inbound c.name, .handling (Manager.handlerFor c true false {})⟩
        inlets := w.manager.inlets.put j { inlet with queue } }
      (Manager.spawn
        { w.manager with inlets := w.manager.inlets.put j { inlet with queue } } c.wire
        (.inbound c.name) (.handling (Manager.handlerFor c true false {}))) :=
    ⟨rfl, rfl, rfl, rfl, rfl, rfl⟩
  refine hw.of_take hc hfree (hw.place_ne_of_none hnone) (hw.lt_next hc) (.inl rfl) hlike
    (Table.nodup_numbers_put hw.inlets _ _) ?_ ?_
  · intro k inlet' hk c' hc'
    rw [Table.find?_put] at hk
    split at hk
    · next hkj =>
        cases hk
        obtain ⟨hcon, hpl⟩ := hw.queued j inlet hj c' (by rw [hq]; exact List.mem_cons_of_mem _ hc')
        refine ⟨hcon, hkj ▸ hpl, ?_⟩
        intro he
        exact hnodup.1 (he ▸ List.mem_map.mpr ⟨c', hc', rfl⟩)
    · next hkj =>
        obtain ⟨hcon, hpl⟩ := hw.queued k inlet' hk c' hc'
        refine ⟨hcon, hpl, ?_⟩
        intro he
        rw [he, hp] at hpl
        cases hpl
        exact hkj rfl
  · intro k inlet' hk
    rw [Table.find?_put] at hk
    split at hk
    · cases hk
      exact hnodup.2
    · exact hw.queues k inlet' hk

theorem move_sound (hw : w.Sound me) {t : Nat} {origin : Origin} {h : Handler} {wire : Wire}
    {move : Handler.Move} (ht : w.manager.tasks.find? t = some ⟨origin, .handling h⟩)
    (hwire : w.wire? h.number = some wire) (hturn : h.Turn w.manager.toNode wire move) :
    Sound me
      { w with
        manager := w.manager.applyMove t origin h.number move
        deeds := w.deeds ++ (h.deeds w.manager.toNode move).map (h.number, ·) } := by
  have hh : w.handler? t = some h := handler?_of_find? ht
  obtain ⟨c, wire', hc, hwire', hcw, htends⟩ := hw.tends hh
  rw [hwire] at hwire'
  cases hwire'
  have hin : ∀ e, h.entry? = some e → e ∈ w.manager.registry.entries := by
    intro e he
    exact (hw.entries e).mpr ⟨t, h, hh, he⟩
  have hid : ∀ e, h.entry? = some e → e.id = h.number := fun e he => hw.entry_id hh he
  -- A handler that still moves has not fired its signal.
  have hsilent : h.number ∉ w.manager.registry.fired := by
    have hfired := htends.fired
    rw [hturn.outcome_none, hcw] at hfired
    simp [hfired]
  have heffect := hturn.effect
  obtain ⟨hlink, hnumber⟩ := hturn.link
  refine hw.of_update ht (.handling move.handler) move.wire
    (w.manager.wires.put h.number move.wire) move.registry (h.deeds w.manager.toNode move)
    ⟨rfl, rfl, rfl, rfl, rfl, rfl⟩
    (fun n => Table.find?_put _ _ _ _) (heffect.proper hw.proper)
    (heffect.entries hw.proper hin) (fun n hn => heffect.fired_other hid hn) ?_
  intro c' hc' hcw'
  rw [hc] at hc'
  cases hc'
  exact {
    number := hnumber.trans hcw.symm
    labels := hlink ▸ htends.labels
    staged := hturn.staged htends.staged
    chronicle := hturn.chronicle htends.chronicle
    wired := hturn.wired hw.identity htends.wired
    receipt := hturn.receipt htends.wired htends.receipt
    fired := hcw ▸ hturn.fired htends.chronicle hsilent }

/-- A link that ends leaves behind what its handler did. -/
theorem conclude_sound (hw : w.Sound me) {t : Nat} {origin : Origin} {h : Handler}
    {outcome : Outcome} (ht : w.manager.tasks.find? t = some ⟨origin, .handling h⟩)
    (ho : h.outcome? = some outcome) :
    (w.onManager (·.conclude t origin outcome)).Sound me := by
  have hh : w.handler? t = some h := handler?_of_find? ht
  obtain ⟨c, wire, hc, hwire, hcw, htends⟩ := hw.tends hh
  have hphase := Handler.outcome?_eq_some.mp ho
  have hentry : h.entry? = none := by simp [Handler.entry?, hphase]
  have hover : Handler.Over h.link h.number (w.deedsOf h.number) outcome := by
    have hchronicle := htends.chronicle
    rw [Handler.Chronicle, hphase] at hchronicle
    exact hchronicle
  have hsound := hw.of_update ht (.done outcome) wire w.manager.wires w.manager.registry []
    (m := w.manager.conclude t origin outcome) ⟨rfl, rfl, rfl, rfl, rfl, rfl⟩
    (by
      intro n
      split
      · next hn => exact hn ▸ hwire
      · rfl)
    hw.proper (by simp [hentry, Task.handler?]) (fun _ _ => Iff.rfl)
    (by
      intro c' hc' _
      rw [hc] at hc'
      cases hc'
      rw [List.append_nil]
      refine ⟨h.link, htends.labels, hcw.symm ▸ hover, htends.wired.stamped, htends.receipt, ?_⟩
      have hfired := htends.fired
      rw [ho] at hfired
      simpa using hfired)
  rw [List.map_nil, List.append_nil] at hsound
  exact hsound

theorem cancel_sound (hw : w.Sound me) {t : Nat} {origin : Origin} {h : Handler} {wire : Wire}
    (ht : w.manager.tasks.find? t = some ⟨origin, .handling h⟩)
    (hwire : w.wire? h.number = some wire) (hbusy : h.isBusy = false) :
    (w.onManager fun m =>
      (m.applyMove t origin h.number (h.cancel m.toNode wire)).conclude t origin
        ((h.cancel m.toNode wire).handler.outcome?.getD .cancelled)).Sound me := by
  have hh : w.handler? t = some h := handler?_of_find? ht
  obtain ⟨c, wire', hc, hwire', hcw, htends⟩ := hw.tends hh
  rw [hwire] at hwire'
  cases hwire'
  have heffect : Handler.Effect w.manager.registry h (h.cancel w.manager.toNode wire) :=
    Handler.cancel_effect
  have hin : ∀ e, h.entry? = some e → e ∈ w.manager.registry.entries := by
    intro e he
    exact (hw.entries e).mpr ⟨t, h, hh, he⟩
  have hid : ∀ e, h.entry? = some e → e.id = h.number := fun e he => hw.entry_id hh he
  have hover := Handler.cancel_over w.manager.toNode wire hbusy htends.chronicle
  have hfired := Handler.cancel_fired w.manager.toNode wire hbusy htends.chronicle
    (hcw ▸ htends.fired)
  have hrecord := Handler.record_cancel w.manager.toNode wire h
  have hsound := hw.of_update ht
    (.done ((h.cancel w.manager.toNode wire).handler.outcome?.getD .cancelled))
    (h.cancel w.manager.toNode wire).wire
    (w.manager.wires.put h.number (h.cancel w.manager.toNode wire).wire)
    (h.cancel w.manager.toNode wire).registry []
    (m := (w.manager.applyMove t origin h.number (h.cancel w.manager.toNode wire)).conclude t
      origin ((h.cancel w.manager.toNode wire).handler.outcome?.getD .cancelled))
    ⟨Table.put_put _ _ _ _, rfl, rfl, rfl, rfl, rfl⟩ (fun n => Table.find?_put _ _ _ _)
    (heffect.proper hw.proper)
    (by
      intro e
      rw [heffect.entries hw.proper hin, Handler.cancel_entry]
      rfl)
    (fun n hn => heffect.fired_other hid hn)
    (by
      intro c' hc' _
      rw [hc] at hc'
      cases hc'
      obtain ⟨htaken, hsent, -⟩ := Wire.Record.mk.inj hrecord
      rw [List.append_nil]
      refine ⟨h.link, htends.labels, hcw.symm ▸ hover, ?_, ?_, hcw.symm ▸ hfired⟩
      · have hstamped := htends.wired.stamped
        unfold Handler.Stamped at *
        rw [hsent]
        exact hstamped
      · intro octets ho
        rw [htaken]
        exact htends.receipt octets ho)
  rw [List.map_nil, List.append_nil] at hsound
  exact hsound

/-- **Every change keeps the world sound.** -/
theorem Change.sound (hc : Change w a w') (hw : w.Sound me) : w'.Sound me := by
  cases hc with
  | keep hm => exact keep_sound hw hm
  | remote n what => exact remote_sound hw n what
  | make => exact make_sound hw _ _ _ _ _ _
  | discard hp hc => exact discard_sound hw hp hc
  | enqueue hp hc hj => exact enqueue_sound hw hp hc hj
  | take hp hc ht hlt hnone hm =>
      refine hw.of_take hc (by simp [hp]) ht hlt (hnone.imp_right And.left) hm hw.inlets ?_
        hw.queues
      intro j inlet hj c' hc'
      obtain ⟨hcon, hpl⟩ := hw.queued j inlet hj c' hc'
      refine ⟨hcon, hpl, ?_⟩
      intro he
      rw [he, hp] at hpl
      cases hpl
  | pop _ hj hq => exact pop_sound hw hj hq
  | spawn =>
      obtain ⟨hcnext, hpnext⟩ := hw.fresh w.next (Nat.le_refl _)
      have hnone : w.manager.tasks.find? w.next = none := by
        cases ht : w.manager.tasks.find? w.next with
        | none => rfl
        | some task => exact absurd (hw.tasks _ _ ht).1 (Nat.lt_irrefl _)
      exact hw.of_spawn rfl (hw.place_ne_of_none hnone) hcnext (Nat.le_succ _)
        (Nat.lt_succ_self _) ⟨rfl, rfl, rfl, rfl, rfl, rfl⟩
  | @idle _ t origin activity activity' m hi ht hm =>
      have hfree := hw.place_ne ht hi.not_attends
      obtain ⟨hlt, hor⟩ := hw.tasks t _ ht
      exact hw.of_spawn hi.handler? hfree (hor.resolve_right (hfree t)) (Nat.le_refl _) hlt hm
  | move ha ht hwire hturn => exact move_sound hw ht hwire hturn
  | conclude ht ho => exact conclude_sound hw ht ho
  | cancel ht hwire hbusy => exact cancel_sound hw ht hwire hbusy

/-! ## §2. Runs. -/

theorem run_append (T : Transport σ) (w : World σ) (l l' : List (Act σ)) :
    w.run T (l ++ l') = (w.run T l).run T l' := List.foldl_append

/-- **What every act keeps in a sound world, a run keeps.** -/
theorem Sound.run_keeps (T : Transport σ) (hw : w.Sound me) {p : World σ → Prop}
    (hstep : ∀ {w : World σ} {a : Act σ}, w.Sound me → p w → p (w.act T a)) (hp : p w)
    (acts : List (Act σ)) : p (w.run T acts) := by
  -- One act at a time, from the front.
  induction acts generalizing w with
  | nil => exact hp
  | cons a rest ih => exact ih ((act_change T hw a).sound hw) (hstep hw hp)

/-- **A sound world stays sound, whatever happens.** -/
theorem Sound.run (T : Transport σ) (hw : w.Sound me) (acts : List (Act σ)) :
    (w.run T acts).Sound me :=
  hw.run_keeps T (fun hw _ => (act_change T hw _).sound hw) hw acts

/-- **After any run, a world is sound.** -/
theorem sound_run (T : Transport σ) (me : Identity) (settings : Settings) (engine : Engine)
    (state : σ) (acts : List (Act σ)) : ((start me settings engine state).run T acts).Sound me :=
  (sound_start me settings engine state).run T acts

end LinkLayer.World

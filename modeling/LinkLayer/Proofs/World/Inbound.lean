/-
  LinkLayer.Proofs.World.Inbound
  ──────────────────────────────
  **CONNECTIONS THAT COME IN AT A LISTENER.**

  A connection that is delivered to a listener stands in line there until the
  listener takes it, or is ended.

    • `InLine` — how many others are ahead of it,
    • `inLine_act` — **one act**: it stands in line still, and no further
      behind; or it is taken; or it is dropped with its listener,
    • `Dropped.run`, `served_run` — whoever was dropped or taken stays so,
    • `fate_run` — so a run has one act at most that decides about it,
    • `allowed_of_handedOver` — and whoever is handed over in the end is
      allowed by the settings with which its handler began.

  `inbound_served_once` puts this together for all runs.
-/
import LinkLayer.Proofs.Link.Verdict
import LinkLayer.Proofs.World.Managing
import LinkLayer.Proofs.World.Moments
import LinkLayer.Proofs.World.Stopping

namespace LinkLayer

/-! ## §1. Wires that are closed. -/

/-- A wire is closed both ways. -/
def Wire.IsClosed (wire : Wire) : Prop :=
  wire.inbound.closed = true ∧ wire.outbound.closed = true

theorem Wire.isClosed_drop (wire : Wire) : wire.drop.IsClosed := ⟨rfl, rfl⟩

/-- No remote end opens it again. -/
theorem Wire.IsClosed.apply {wire : Wire} (h : wire.IsClosed) (what : RemoteAct) :
    (what.apply wire).IsClosed := by
  cases what with
  | write octets => simpa [RemoteAct.apply, Wire.remoteWrite, h.1] using h
  | read count => exact h
  | shutDown => exact ⟨rfl, h.2⟩
  | drop => exact ⟨rfl, rfl⟩

/-- An act is the move of a listener. -/
def Act.isMoveOfInlet {σ : Type} (j : Nat) : Act σ → Bool
  | .inlet k | .serve k => k = j
  | _ => false

namespace World

variable {σ : Type} {T : Transport σ} {me : Identity} {w w' : World σ} {a : Act σ}
  {j n ahead : Nat}

/-! ## §2. Standing in line. -/

/-- A connection waits in the queue of a listener, with some others ahead of
it. -/
def InLine (w : World σ) (j n ahead : Nat) : Prop :=
  ∃ inlet front c back, w.manager.inlets.find? j = some inlet ∧ inlet.isServed = true ∧
    inlet.queue = front ++ c :: back ∧ c.wire = n ∧ front.length = ahead

/-- An act ends the listener of a queue. -/
inductive EndsListener (w : World σ) (j : Nat) : Act σ → Prop
  | unlisten {l : Listener} : l ∈ w.manager.listeners → l.inlet = j →
      EndsListener w j (.unlisten l.spec)
  | reconfigure {l : Listener} {config : LinkConfig} {settings : Settings} :
      l ∈ w.manager.listeners → l.inlet = j → config.settings = .ok settings →
      l.spec ∉ settings.listen → EndsListener w j (.reconfigure config)
  | stop : w.manager.isStopped = false → EndsListener w j .stop
  | dropListeners : w.manager.isStopped = true → EndsListener w j .dropListeners
  /-- The listener itself has seen the stop. -/
  | inlet : w.manager.isStopped = true → EndsListener w j (.inlet j)

/-- A connection was dropped from a queue, and nobody has it. -/
structure Dropped (w : World σ) (j n : Nat) : Prop where
  place : w.place n = .queued j
  gone : ¬ w.manager.Queued n
  closed : ∃ wire, w.wire? n = some wire ∧ wire.IsClosed

/-- What an act can make of a connection that stands in line. -/
inductive Onward (w : World σ) (j n ahead : Nat) (a : Act σ) (w' : World σ) : Prop
  | waits {ahead' : Nat} : InLine w' j n ahead' →
      ahead' + (if a.isMoveOfInlet j then 1 else 0) ≤ ahead → Onward w j n ahead a w'
  | taken {c : Connection} : a = .inlet j ∨ a = .serve j → w.connection n = some c →
      w'.manager.tasks.find? n =
        some ⟨.inbound c.name, .handling (Manager.handlerFor c true false {})⟩ →
      w'.place n = .taken n → Onward w j n ahead a w'
  | dropped : w.EndsListener j a → Dropped w' j n → Onward w j n ahead a w'

theorem InLine.queued (h : w.InLine j n ahead) (hw : w.Sound me) :
    ∃ c, w.connection n = some c ∧ c.wire = n ∧ w.place n = .queued j ∧
      w.manager.Queued n := by
  obtain ⟨inlet, front, c, back, hj, -, hq, rfl, -⟩ := h
  have hmem : c ∈ inlet.queue := by simp [hq]
  obtain ⟨hc, hp⟩ := hw.queued j inlet hj c hmem
  exact ⟨c, hc, rfl, hp, j, inlet, hj, List.mem_map.mpr ⟨c, hmem, rfl⟩⟩

/-- Where the queue is the same, so is the line. -/
theorem InLine.of_found (h : w.InLine j n ahead)
    (hi : ∀ inlet, w.manager.inlets.find? j = some inlet →
      w'.manager.inlets.find? j = some inlet) : w'.InLine j n ahead := by
  obtain ⟨inlet, front, c, back, hj, hrest⟩ := h
  exact ⟨inlet, front, c, back, hi inlet hj, hrest⟩

/-- Whoever comes later stands behind. -/
theorem InLine.of_put (h : w.InLine j n ahead) {k : Nat} {inlet inlet' : Inlet}
    {more : List Connection} (hk : w.manager.inlets.find? k = some inlet)
    (hi : w'.manager.inlets = w.manager.inlets.put k inlet')
    (hserved : inlet'.isServed = inlet.isServed) (hqueue : inlet'.queue = inlet.queue ++ more) :
    w'.InLine j n ahead := by
  by_cases hjk : j = k
  · subst hjk
    obtain ⟨old, front, c, back, hj, hold, hq, hcn, hahead⟩ := h
    cases hj.symm.trans hk
    refine ⟨inlet', front, c, back ++ more, ?_, hserved.trans hold, ?_, hcn, hahead⟩
    · rw [hi]
      exact Table.find?_put_self _ _ _
    · rw [hqueue, hq, List.append_assoc, List.cons_append]
  · refine h.of_found fun old hj => ?_
    rw [hi]
    exact (Table.find?_put_ne _ _ hjk).trans hj

/-- A connection that waits in one queue waits in no other. -/
theorem Sound.queue_eq (hw : w.Sound me) (hp : w.place n = .queued j) {k : Nat} {inlet : Inlet}
    (hk : w.manager.inlets.find? k = some inlet) (hin : n ∈ inlet.queue.map (·.wire)) :
    k = j := by
  obtain ⟨c, hc, rfl⟩ := List.mem_map.mp hin
  have hp' := (hw.queued k inlet hk c hc).2
  cases hp.symm.trans hp'
  rfl

/-- What is dropped from a queue that is closed is in no queue any more. -/
theorem InLine.dropped (h : w.InLine j n ahead) (hw : w.Sound me) {m : Manager σ}
    (hs : w.manager.Sheds m) : { w with manager := m }.InLine j n ahead ∨
      Dropped { w with manager := m } j n := by
  obtain ⟨c₀, hcon, -, hp, -⟩ := h.queued hw
  obtain ⟨inlet, front, c, back, hj, hserved, hq, hcn, hahead⟩ := h
  have hmem : c ∈ inlet.queue := by simp [hq]
  rcases hs.queues j inlet hj with hsame | ⟨hshut, hdrops⟩
  · exact .inl ⟨inlet, front, c, back, hsame, hserved, hq, hcn, hahead⟩
  · obtain ⟨-, wire, hwire⟩ := hw.made n c₀ hcon
    refine .inr ⟨hp, ?_, wire.drop, ?_, wire.isClosed_drop⟩
    · rintro ⟨k, inlet', hk, hin⟩
      -- A queue of which anything is left is the old one, and another one.
      rcases hs.keeps.queues k inlet' hk with hnil | ⟨old, hk', hqueue⟩
      · rw [hnil] at hin
        cases hin
      · cases hw.queue_eq hp hk' (hqueue ▸ hin)
        cases hshut.symm.trans hk
        cases hin
    · have hdrop := hdrops c hmem
      rw [hcn] at hdrop
      show m.wires.find? n = _
      rw [hdrop, show w.manager.wires.find? n = some wire from hwire]
      rfl

/-! ## §3. The listener's own moves. -/

/-- A listener that takes a connection takes the one that is first in line. -/
theorem onward_of_pop (h : w.InLine j n ahead) (hw : w.Sound me)
    (ha : a = .inlet j ∨ a = .serve j) {inlet : Inlet} {c : Connection}
    {queue : List Connection} (hj : w.manager.inlets.find? j = some inlet)
    (hq : inlet.queue = c :: queue) :
    Onward w j n ahead a
      (give (w.onManager fun m =>
        Manager.spawn { m with inlets := m.inlets.put j { inlet with queue } } c.wire
          (.inbound c.name) (.handling (Manager.handlerFor c true false {})))
        c.wire (.taken c.wire)) := by
  obtain ⟨c₀, hcon, -, -, -⟩ := h.queued hw
  obtain ⟨inlet', front, c', back, hj', hserved, hq', hcn, hahead⟩ := h
  cases hj.symm.trans hj'
  have hown : a.isMoveOfInlet j = true := by
    rcases ha with rfl | rfl <;> exact decide_eq_true rfl
  cases front with
  | nil =>
      obtain ⟨rfl, -⟩ := List.cons.inj (hq.symm.trans hq')
      subst hcn
      have hfirst := (hw.queued j inlet hj c (by simp [hq])).1
      exact .taken ha hfirst (Table.find?_put_self _ _ _) (Function.update_self _ _ _)
  | cons x front =>
      obtain ⟨-, hqueue⟩ := List.cons.inj (hq.symm.trans hq')
      -- Whoever stands behind the first is one place further.
      have hle : front.length + (if a.isMoveOfInlet j then 1 else 0) ≤ ahead := by
        rw [hown, ← hahead]
        exact Nat.le_refl _
      exact .waits ⟨{ inlet with queue }, front, c', back, Table.find?_put_self _ _ _, hserved,
        hqueue, hcn, rfl⟩ hle

theorem onward_inlet (h : w.InLine j n ahead) (hw : w.Sound me) :
    Onward w j n ahead (.inlet j) (w.inletMove j) := by
  obtain ⟨inlet, front, c, back, hj, hserved, hq, -⟩ := id h
  cases hs : w.manager.isStopped with
  | false =>
      have hpop : ∃ x, w.popped? j = some x := by
        cases front <;> simp [popped?, hj, hserved, hs, hq]
      obtain ⟨x, hpop⟩ := hpop
      obtain ⟨inlet', queue, hj', hq', he⟩ := inletMove_of_popped hpop
      rw [he]
      exact onward_of_pop h hw (.inl rfl) hj' hq'
  | true =>
      -- The listener of a stopped node finishes, and drops what waits.
      have hsheds : w.manager.Sheds (w.manager.finishInlet j inlet.spec) :=
        (Manager.sheds_closeInlet _ j).trans (.of_keeps (Manager.keeps_report _ _) rfl)
      have hmove : w.inletMove j = w.onManager fun m => m.finishInlet j inlet.spec := by
        simp [inletMove, Manager.stepInlet, popped?, hj, hserved, hs, onManager]
      have hunserved : ∀ inlet', (w.manager.finishInlet j inlet.spec).inlets.find? j =
          some inlet' → inlet'.isServed = false := fun _ => Manager.isServed_closeInlet
      rw [hmove]
      rcases h.dropped hw hsheds with ⟨inlet', _, _, _, hj', hserved', -⟩ | hdropped
      · cases (hunserved inlet' hj').symm.trans hserved'
      · exact .dropped (.inlet hs) hdropped

theorem onward_serve (h : w.InLine j n ahead) (hw : w.Sound me) :
    Onward w j n ahead (.serve j) (w.serve j) := by
  obtain ⟨inlet, front, c, back, hj, hserved, hq, -⟩ := id h
  have hpop : ∃ x, (w.flag false).popped? j = some x := by
    have hj' : (w.flag false).manager.inlets.find? j = some inlet := hj
    have hs : (w.flag false).manager.isStopped = false := rfl
    cases front <;> simp [popped?, hj', hserved, hs, hq]
  obtain ⟨x, hpop⟩ := hpop
  obtain ⟨inlet', queue, hj', hq', he⟩ := serve_of_popped hpop
  rw [he]
  exact onward_of_pop h hw (.inr rfl) hj' hq'

/-! ## §4. All acts. -/

theorem Dropped.of_same (h : Dropped w j n) (hp : w'.place n = w.place n)
    (hm : w'.manager = w.manager) : Dropped w' j n where
  place := hp.trans h.place
  gone := hm ▸ h.gone
  closed := by
    unfold wire?
    rw [hm]
    exact h.closed

/-- Whoever ends a listener from outside leaves the connections where they
are. -/
theorem EndsListener.place (h : w.EndsListener j a) (ha : a.isMoveOfInlet j = false) :
    (w.act T a).place = w.place := by
  cases h with
  | inlet => exact absurd (decide_eq_true rfl) (Bool.eq_false_iff.mp ha)
  | dropListeners hs =>
      have hact : w.act T .dropListeners = w.onManager (·.dropListeners) := if_pos hs
      rw [hact]
      rfl
  | _ => rfl

/-- What is not the listener's own move leaves the line as it is, or ends the
listener and drops what waits. -/
theorem Manages.inLine {m : Manager σ} (hm : Manages T w a m) (hw : w.Sound me)
    (ho : w.manager.Orderly) (h : w.InLine j n ahead) (ha : a.isMoveOfInlet j = false) :
    { w with manager := m }.InLine j n ahead ∨
      w.EndsListener j a ∧ Dropped { w with manager := m } j n := by
  have hsame : (∀ inlet, w.manager.inlets.find? j = some inlet →
      m.inlets.find? j = some inlet) →
      { w with manager := m }.InLine j n ahead ∨
        w.EndsListener j a ∧ Dropped { w with manager := m } j n :=
    fun hi => .inl (h.of_found hi)
  have hends : w.EndsListener j a → w.manager.Sheds m →
      { w with manager := m }.InLine j n ahead ∨
        w.EndsListener j a ∧ Dropped { w with manager := m } j n :=
    fun he hs => (h.dropped hw hs).imp_right fun hd => ⟨he, hd⟩
  -- The moves of listeners are those of other listeners.
  have hother : ∀ {k : Nat}, a = .inlet k ∨ a = .serve k → j ≠ k := by
    rintro k (rfl | rfl) rfl <;> exact absurd (decide_eq_true rfl) (Bool.eq_false_iff.mp ha)
  cases hm with
  | apart hm => exact hsame fun inlet hj => (congrArg (·.find? j) hm.inlets).trans hj
  | dial _ hm => exact hsame fun inlet hj => (congrArg (·.find? j) hm.inlets).trans hj
  | enqueue _ _ hk _ hm => exact .inl (h.of_put hk hm.inlets rfl rfl)
  | pop hak _ _ _ hm =>
      exact hsame fun inlet hj => (congrArg (·.find? j) hm.inlets).trans
        ((Table.find?_put_ne _ _ (hother hak)).trans hj)
  | finish hak _ _ _ hm =>
      exact hsame fun inlet hj => (congrArg (·.find? j) hm.inlets).trans
        ((Manager.find?_closeInlet_ne _ (hother hak)).trans hj)
  | endInlet spec =>
      unfold Manager.endInlet
      split
      · exact .inl h
      · next k inlet' hk =>
          have hfind := Table.find?_of_mem hw.inlets (Manager.mem_of_find?_reverse hk)
          exact .inl (h.of_put hfind rfl rfl (List.append_nil _).symm)
  | listen spec => exact hsame fun inlet hj => Manager.find?_listen ho T spec hj
  | unlisten spec =>
      by_cases hex : ∃ l ∈ w.manager.listeners, l.spec = spec ∧ l.inlet = j
      · obtain ⟨l, hl, rfl, hlj⟩ := hex
        exact hends (.unlisten hl hlj) (Manager.sheds_unlisten _ _)
      · refine hsame fun inlet hj =>
          ((Manager.ends_unlisten ho spec).others j fun l hl hspec hlj => ?_).trans hj
        exact hex ⟨l, hl, List.mem_singleton.mp hspec, hlj⟩
  | reconfigure config =>
      cases hc : config.settings with
      | error e =>
          rw [Manager.reconfigure, hc]
          exact .inl h
      | ok settings =>
          by_cases hex : ∃ l ∈ w.manager.listeners, l.inlet = j ∧ l.spec ∉ settings.listen
          · obtain ⟨l, hl, hlj, hnot⟩ := hex
            exact hends (.reconfigure hl hlj hc hnot) (Manager.sheds_reconfigure ho T config)
          · refine hsame fun inlet hj => Manager.find?_reconfigure ho T hc hj fun l hl hlj => ?_
            by_contra hnot
            exact hex ⟨l, hl, hlj, hnot⟩
  | stop =>
      cases hs : w.manager.isStopped with
      | true =>
          rw [Manager.stop_of_stopped T hs]
          exact .inl h
      | false => exact hends (.stop hs) (Manager.sheds_stop T _)
  | raiseStop => exact .inl h
  | dropListeners hs => exact hends (.dropListeners hs) (Manager.sheds_dropListeners _)
  | stopTransport => exact hsame fun inlet hj =>
      (congrArg (·.find? j) (Manager.inlets_stopTransport T _)).trans hj

/-- **One act**: a connection that stands in line stands there still, and no
further behind; or it is taken; or it is dropped with its listener. -/
theorem inLine_act (T : Transport σ) (hw : w.Sound me) (ho : w.manager.Orderly)
    (h : w.InLine j n ahead) (a : Act σ) : Onward w j n ahead a (w.act T a) := by
  cases ha : a.isMoveOfInlet j with
  | false =>
      rcases (manages_act T hw a).inLine hw ho h ha with hline | ⟨hends, hdropped⟩
      · refine .waits hline ?_
        rw [ha]
        exact Nat.le_refl _
      · exact .dropped hends (hdropped.of_same (congrFun (hends.place ha) n) rfl)
  | true =>
      cases a with
      | inlet k =>
          cases of_decide_eq_true ha
          exact onward_inlet h hw
      | serve k =>
          cases of_decide_eq_true ha
          exact onward_serve h hw
      | _ => cases ha

/-! ## §5. Whoever was dropped stays so. -/

/-- Nobody has used a connection: there is no task for it and no deed of one,
and nothing was done at this end of its wire, neither a read nor a write nor a
close. -/
structure Untouched (w : World σ) (n : Nat) : Prop where
  task : w.manager.tasks.find? n = none
  deeds : w.deedsOf n = []
  wire : ∀ wire, w.wire? n = some wire → wire.record = {}

/-- What is queued, or was, is untouched. -/
theorem Sound.untouched (hw : w.Sound me) {c : Connection} (hc : w.connection n = some c)
    (hp : w.place n = .queued j) : w.Untouched n := by
  have hnot : ∀ t, w.place n ≠ .taken t := fun t ht => by cases hp.symm.trans ht
  obtain ⟨hdeeds, -, hrec⟩ := hw.idle n hnot
  exact ⟨hw.no_task hc (hnot n), hdeeds, hrec⟩

/-- A connection stays what it is. -/
theorem connection_run (T : Transport σ) (hw : w.Sound me) {c : Connection}
    (hc : w.connection n = some c) (acts : List (Act σ)) :
    (w.run T acts).connection n = some c :=
  hw.run_keeps T (p := fun w => w.connection n = some c)
    (fun hw hc => ((act_change T hw _).connection (hw.lt_next hc)).1.trans hc) hc acts

theorem Change.dropped (hc : Change w a w') (hw : w.Sound me) (h : Dropped w j n) :
    Dropped w' j n := by
  obtain ⟨hp, hgone, wire, hwire, hclosed⟩ := h
  -- Whoever is given to someone else is another connection, and so is
  -- whoever has a handler.
  have hplace : ∀ {k : Nat} {place : Place}, n ≠ k →
      Function.update w.place k place n = .queued j :=
    fun hk => (Function.update_of_ne hk _ _).trans hp
  have hloose : ∀ {k : Nat}, w.place k = .loose → n ≠ k := by
    rintro k hk rfl
    cases hp.symm.trans hk
  have hother : ∀ {t : Nat} {origin : Origin} {h : Handler},
      w.manager.tasks.find? t = some ⟨origin, .handling h⟩ → n ≠ h.number := by
    rintro t origin h ht rfl
    cases hp.symm.trans (hw.holders t h (handler?_of_find? ht))
  have hsame : ∀ {m : Manager σ}, m.inlets = w.manager.inlets → ¬ m.Queued n := by
    rintro m hm ⟨i, inlet, hi, hin⟩
    exact hgone ⟨i, inlet, hm ▸ hi, hin⟩
  -- A queue that is replaced holds what it held, or what was loose.
  have hput : ∀ {k : Nat} {inlet : Inlet}, n ∉ inlet.queue.map (·.wire) →
      ¬ { w.manager with inlets := w.manager.inlets.put k inlet }.Queued n := by
    rintro k inlet hnot ⟨i, inlet', hi, hin⟩
    rw [Table.find?_put] at hi
    split at hi
    · cases hi
      exact hnot hin
    · exact hgone ⟨i, inlet', hi, hin⟩
  cases hc with
  | keep hm =>
      refine ⟨hp, hm.not_queued hgone, ?_⟩
      rcases hm.wires n with hsame | hdrop
      · exact ⟨wire, hsame.trans hwire, hclosed⟩
      · exact ⟨wire.drop, hdrop.trans (congrArg (Option.map Wire.drop) hwire),
          wire.isClosed_drop⟩
  | remote k what =>
      refine ⟨hp, hgone, ?_⟩
      rw [wire?_onWire, hwire]
      split
      · exact ⟨_, rfl, hclosed.apply what⟩
      · exact ⟨wire, rfl, hclosed⟩
  | make =>
      have hk : n ≠ w.next := by
        rintro rfl
        cases hp.symm.trans (hw.fresh w.next (Nat.le_refl _)).2
      exact ⟨hplace hk, hgone, wire, (Table.find?_put_ne _ _ hk).trans hwire, hclosed⟩
  | @discard _ c hl =>
      have hk := hloose hl
      exact ⟨hplace hk, hgone, wire,
        ((wire?_onWire w c.wire n Wire.drop).trans (if_neg hk)).trans hwire, hclosed⟩
  | @enqueue _ c k inlet hl _ hi =>
      refine ⟨hplace (hloose hl), hput ?_, wire, hwire, hclosed⟩
      rw [List.map_append, List.mem_append, List.map_singleton, List.mem_singleton, not_or]
      exact ⟨fun hin => hgone ⟨k, inlet, hi, hin⟩, hloose hl⟩
  | take hl _ _ _ _ hm =>
      exact ⟨hplace (hloose hl), hsame hm.inlets, wire,
        (congrArg (·.find? n) hm.wires).trans hwire, hclosed⟩
  | @pop _ k inlet c queue _ hi hq =>
      have hne : n ≠ c.wire := by
        rintro rfl
        exact hgone ⟨k, inlet, hi, by simp [hq]⟩
      refine ⟨hplace hne, hput fun hin => hgone ⟨k, inlet, hi, ?_⟩, wire, hwire, hclosed⟩
      rw [hq]
      exact List.mem_cons_of_mem _ hin
  | spawn => exact ⟨hp, hgone, wire, hwire, hclosed⟩
  | idle _ _ hm =>
      exact ⟨hp, hsame hm.inlets, wire, (congrArg (·.find? n) hm.wires).trans hwire, hclosed⟩
  | move _ ht =>
      exact ⟨hp, hgone, wire, (Table.find?_put_ne _ _ (hother ht)).trans hwire, hclosed⟩
  | conclude => exact ⟨hp, hgone, wire, hwire, hclosed⟩
  | cancel ht =>
      exact ⟨hp, hgone, wire, (Table.find?_put_ne _ _ (hother ht)).trans hwire, hclosed⟩

/-- **A connection that was dropped is dropped for good.** -/
theorem Dropped.run (h : Dropped w j n) (T : Transport σ) (hw : w.Sound me)
    (acts : List (Act σ)) : Dropped (w.run T acts) j n :=
  hw.run_keeps T (p := fun w => Dropped w j n) (fun hw h => (act_change T hw _).dropped hw h) h
    acts

/-! ## §6. Whoever was taken is served once. -/

/-- A connection is run as an incoming one, not forced and without options, by
the task with its number, which has it for good.  It is not handed over unless
its handler began under an allow-list that admits the peer. -/
structure Served (T : Transport σ) (w : World σ) (n : Nat) (c : Connection)
    (after : List (Act σ)) : Prop where
  task : w.manager.tasks.find? n =
    some ⟨.inbound c.name, .handling (Manager.handlerFor c true false {})⟩
  place : ∀ l, l <+: after → (w.run T l).place n = .taken n ∧ ¬ (w.run T l).manager.Queued n
  link : ∀ l, l <+: after → ∀ h, (w.run T l).handler? n = some h →
    h.number = n ∧ h.link = (Manager.handlerFor c true false {}).link
  allowed : ∀ peer metric, Deed.handedOver peer metric ∈ (w.run T after).deedsOf n →
    ∃ l l' h, after = l ++ .task n :: l' ∧ (w.run T l).handler? n = some h ∧
      h.phase = .fresh ∧ (w.run T l).manager.isStopped = false ∧
      (w.run T l).manager.settings.isAllowed peer = true

/-- **Whoever is handed over began under settings that admit the peer**, if the
allow-list has a say. -/
theorem allowed_of_handedOver (T : Transport σ) (hw : w.Sound me) {t : Nat} {h : Handler}
    (hh : w.handler? t = some h) (hfresh : h.phase = .fresh)
    (hasks : Handler.asksAllowList h.link = true) {after : List (Act σ)} {peer : Identity}
    {metric : UInt8}
    (hd : Deed.handedOver peer metric ∈ (w.run T after).deedsOf h.number) :
    ∃ l l' h', after = l ++ .task t :: l' ∧ (w.run T l).handler? t = some h' ∧
      h'.phase = .fresh ∧ (w.run T l).manager.isStopped = false ∧
      (w.run T l).manager.settings.isAllowed peer = true := by
  obtain ⟨link, _, -, -, hstory⟩ := (hw.run T after).story hd
  obtain ⟨settings, octets, frame, hwel, hds⟩ := hstory.of_handedOver hd
  have hpeer : peer = frame.identity := by
    rw [hds] at hd
    simp only [Handler.servedLog, Handler.askedLog, Handler.readLog, List.cons_append,
      List.nil_append, List.mem_cons, reduceCtorEq, Deed.handedOver.injEq, List.not_mem_nil,
      or_false, false_or] at hd
    exact hd.1
  have hbegan : Deed.began link settings ∈ (w.run T after).deedsOf h.number := by
    rw [hds]
    exact List.mem_cons_self
  -- The handler is fresh, so it began in the run.
  rcases mem_deeds_run hw (mem_deedsOf.mp hbegan) with hold |
    ⟨l, s, l', h', wire, move, rfl, hmoment, hn, hnew⟩
  · have hnil : w.deedsOf h.number = [] := by
      have hc := (hw.number_of_place (hw.holders t h hh) hh).2
      rwa [Handler.Chronicle, hfresh] at hc
    rw [← mem_deedsOf, hnil] at hold
    cases hold
  · have hp := place_run (T := T) hw (hw.holders t h hh) l
    obtain ⟨hfresh', hrun, rfl, rfl⟩ := of_mem_began hnew
    cases (hw.run T l).task_of_number hp hmoment.handler hn
    refine ⟨l, l', h', rfl, hmoment.handler, hfresh', hrun, ?_⟩
    rw [link_run hw hh hmoment.handler] at hwel
    have hallowed := Handler.allowed_iff.mpr (Handler.verdict_eq_welcome.mp hwel.verdict).allowed
    rwa [hasks, Bool.true_and, Bool.not_eq_false', ← hpeer] at hallowed

theorem served_run (T : Transport σ) (hw : w.Sound me) {c : Connection}
    (ht : w.manager.tasks.find? n =
      some ⟨.inbound c.name, .handling (Manager.handlerFor c true false {})⟩)
    (hp : w.place n = .taken n) (after : List (Act σ)) : Served T w n c after := by
  have hh : w.handler? n = some (Manager.handlerFor c true false {}) := handler?_of_find? ht
  have hn : c.wire = n := (hw.number_of_place hp hh).1
  refine ⟨ht, fun l _ => ?_, fun l _ h hl => ?_, fun peer metric hd => ?_⟩
  · have hpl := place_run (T := T) hw hp l
    exact ⟨hpl, (hw.run T l).not_queued hpl⟩
  · exact ⟨((hw.run T l).number_of_place (place_run hw hp l) hl).1, link_run hw hh hl⟩
  · subst hn
    exact allowed_of_handedOver T hw hh rfl rfl hd

/-! ## §7. Runs. -/

/-- A connection stands in line throughout a run, untouched, and moves up with
each move of the listener. -/
def Lined (T : Transport σ) (w : World σ) (j n ahead : Nat) (acts : List (Act σ)) : Prop :=
  ∀ l, l <+: acts → (w.run T l).Untouched n ∧ ∃ ahead', (w.run T l).InLine j n ahead' ∧
    ahead' + l.countP (Act.isMoveOfInlet j) ≤ ahead

/-- What becomes of a connection that does not stand in line any more: up to
one act it did, and this act is the listener's, which takes it, or ends the
listener. -/
inductive Fate (T : Transport σ) (w : World σ) (j n ahead : Nat) : List (Act σ) → Prop
  | taken {before after : List (Act σ)} {a : Act σ} {c : Connection} :
      Lined T w j n ahead before → a = .inlet j ∨ a = .serve j → w.connection n = some c →
      Served T (w.run T (before ++ [a])) n c after → Fate T w j n ahead (before ++ a :: after)
  | dropped {before after : List (Act σ)} {a : Act σ} :
      Lined T w j n ahead before → (w.run T before).EndsListener j a →
      (∀ l, l <+: after → (w.run T (before ++ a :: l)).Untouched n ∧
        Dropped (w.run T (before ++ a :: l)) j n) →
      Fate T w j n ahead (before ++ a :: after)

/-- Whoever stands in line is untouched. -/
theorem InLine.untouched (h : w.InLine j n ahead) (hw : w.Sound me) : w.Untouched n := by
  obtain ⟨c, hc, -, hp, -⟩ := h.queued hw
  exact hw.untouched hc hp

theorem lined_nil (h : w.InLine j n ahead) (hw : w.Sound me) : Lined T w j n ahead [] := by
  intro l hl
  cases List.prefix_nil.mp hl
  exact ⟨h.untouched hw, ahead, h, Nat.le_refl _⟩

/-- One more act before those during which it stands in line. -/
theorem Lined.cons {ahead' : Nat} {acts : List (Act σ)}
    (hl : Lined T (w.act T a) j n ahead' acts) (h : w.InLine j n ahead) (hw : w.Sound me)
    (hle : ahead' + (if a.isMoveOfInlet j then 1 else 0) ≤ ahead) :
    Lined T w j n ahead (a :: acts) := by
  intro l hprefix
  cases l with
  | nil => exact ⟨h.untouched hw, ahead, h, Nat.le_refl _⟩
  | cons b l =>
      obtain ⟨rfl, htail⟩ := List.cons_prefix_cons.mp hprefix
      obtain ⟨huntouched, ahead'', hline, hcount⟩ := hl l htail
      refine ⟨huntouched, ahead'', hline, ?_⟩
      rw [List.countP_cons]
      omega

/-- Whoever stands in line has fewer moves of the listener behind it than there
were others ahead of it, or as many. -/
theorem Lined.count {acts : List (Act σ)} (h : Lined T w j n ahead acts) :
    acts.countP (Act.isMoveOfInlet j) ≤ ahead := by
  obtain ⟨-, ahead', -, hle⟩ := h acts List.prefix_rfl
  exact Nat.le_trans (Nat.le_add_left _ _) hle

theorem Fate.cons {ahead' : Nat} {acts : List (Act σ)}
    (hf : Fate T (w.act T a) j n ahead' acts) (h : w.InLine j n ahead) (hw : w.Sound me)
    (hle : ahead' + (if a.isMoveOfInlet j then 1 else 0) ≤ ahead) :
    Fate T w j n ahead (a :: acts) := by
  cases hf with
  | taken hlined hmove hc hserved =>
      obtain ⟨c, hcon, -⟩ := h.queued hw
      cases (connection_run T hw hcon [a]).symm.trans hc
      have hlined' := hlined.cons h hw hle
      exact Fate.taken hlined' hmove hcon hserved
  | dropped hlined hends hdropped =>
      have hlined' := hlined.cons h hw hle
      exact Fate.dropped hlined' hends hdropped

/-- **A run**: whoever stands in line stands there still, or was taken, or was
dropped with its listener. -/
theorem fate_run (T : Transport σ) (hw : w.Sound me) (ho : w.manager.Orderly)
    (h : w.InLine j n ahead) (acts : List (Act σ)) :
    Lined T w j n ahead acts ∨ Fate T w j n ahead acts := by
  induction acts generalizing w ahead with
  | nil => exact .inl (lined_nil h hw)
  | cons a rest ih =>
      have hc := act_change T hw a
      have hw₁ := hc.sound hw
      cases inLine_act T hw ho h a with
      | waits hline hle =>
          rcases ih hw₁ (orderly_act T hw ho a) hline with hlined | hfate
          · exact .inl (hlined.cons h hw hle)
          · exact .inr (hfate.cons h hw hle)
      | taken hmove hcon htask hp =>
          exact .inr (.taken (lined_nil h hw) hmove hcon
            (served_run T hw₁ htask hp rest))
      | dropped hends hdropped =>
          refine .inr (.dropped (lined_nil h hw) hends fun l _ => ?_)
          obtain ⟨c, hcon, -⟩ := h.queued hw
          have hlater := hdropped.run T hw₁ l
          exact ⟨(hw₁.run T l).untouched (connection_run T hw hcon (a :: l)) hlater.place, hlater⟩

/-- A connection that a queue has taken in stands in line behind all that wait
there, and the listener is in force. -/
theorem inLine_of_deliver (T : Transport σ) (hw : w.Sound me) (hs : w.manager.Staffed)
    {spec : String} {c : Connection} (hp : w.place n = .loose) (hc : w.connection n = some c)
    (hd : (w.manager.deliver spec c).1 = .taken) :
    ∃ j inlet, w.manager.inlets.find? j = some inlet ∧ inlet.spec.text = spec ∧
      (∃ l ∈ w.manager.listeners, l.inlet = j) ∧
      (w.act T (.deliver spec n)).InLine j n inlet.queue.length := by
  have hact : w.act T (.deliver spec n) = w.deliver spec c := by
    show w.withLoose n (w.deliver spec) = _
    simp [withLoose, hp, hc]
  rw [hact]
  rcases deliver_cases w spec c with ⟨hno, -⟩ | ⟨hno, -⟩ | ⟨j, inlet, hj, hserved, -, he⟩
  · cases hd.symm.trans hno
  · cases hd.symm.trans hno
  · have hfind := hw.find?_of_last hj
    have hplace : inlet.spec.text = spec := by simpa using List.find?_some hj
    rw [he]
    exact ⟨j, inlet, hfind, hplace, hs.staff j inlet hfind hserved,
      { inlet with queue := inlet.queue ++ [c] }, inlet.queue, c, [], Table.find?_put_self _ _ _,
      hserved, rfl, (hw.made n c hc).1, rfl⟩

/-- **Whoever ends a listener leaves all links alone**, those too that came in
there. -/
theorem EndsListener.undisturbed (h : w.EndsListener j a) (T : Transport σ) (hw : w.Sound me) :
    w.Undisturbed (w.act T a) := by
  cases h with
  | unlisten =>
      exact hw.undisturbed (Manager.keeps_unlisten _ _) (Manager.silent_unlisten _ _).toNode
  | @reconfigure _ config =>
      obtain ⟨settings, hnode⟩ := Manager.toNode_reconfigure T w.manager config
      exact hw.undisturbed (Manager.keeps_reconfigure T _ config) hnode
  | stop => exact undisturbed_of_stops T hw rfl
  | dropListeners => exact undisturbed_of_stops T hw rfl
  | inlet hs =>
      show w.Undisturbed (w.inletMove j)
      rcases inletMove_cases w j with ⟨-, he | ⟨inlet, -, -, -, he⟩⟩ | ⟨inlet, c, _, hpop, hj, -⟩
      · rw [he]
        exact hw.undisturbed (.refl w.manager) rfl
      · rw [he]
        exact hw.undisturbed (Manager.keeps_finishInlet _ _ _)
          (Manager.silent_closeInlet w.manager j).toNode
      · -- A listener takes nothing once the node is stopped.
        simp [popped?, hj, hs] at hpop

/-- **A connection that comes in is served once, or dropped untouched.**  Take
any run, a connection that the queue of a listener takes in at its end, and any
run from there.

  • The connection is in line at the listener of the place, behind all that
    wait there, until the listener takes it or is ended; and it comes to its
    turn when the listener has made as many moves as there are others ahead.
  • Whoever is taken is given to one task for good, which runs it as incoming,
    not forced and without options, and hands it over only if the settings at
    the handler's start allow the peer.
  • Whoever is dropped is dropped by an act that ends the listener, for good,
    with nothing sent or taken.

No act that ends a listener does anything to a link. -/
theorem inbound_served_once (T : Transport σ) (me : Identity) (settings : Settings)
    (engine : Engine) (state : σ) (acts : List (Act σ)) :
    let w := (start me settings engine state).run T acts
    (∀ spec n c, w.place n = .loose → w.connection n = some c →
      (w.manager.deliver spec c).1 = .taken →
      let w' := w.act T (.deliver spec n)
      ∃ j inlet, w.manager.inlets.find? j = some inlet ∧ inlet.spec.text = spec ∧
        (∃ l ∈ w.manager.listeners, l.inlet = j) ∧
        let ahead := inlet.queue.length
        w'.InLine j n ahead ∧
        ∀ after, Lined T w' j n ahead after ∧ after.countP (Act.isMoveOfInlet j) ≤ ahead ∨
          Fate T w' j n ahead after) ∧
    (∀ j a, w.EndsListener j a → w.Undisturbed (w.act T a)) := by
  intro w
  have hw : w.Sound me := sound_run T me settings engine state acts
  have ho : w.manager.Orderly := orderly_run T me settings engine state acts
  have hs : w.manager.Staffed := staffed_run T me settings engine state acts
  refine ⟨fun spec n c hp hc hd => ?_, fun j a hends => hends.undisturbed T hw⟩
  intro w'
  have hw' : w'.Sound me := (act_change T hw _).sound hw
  obtain ⟨j, inlet, hj, hplace, hlistener, hline⟩ := inLine_of_deliver T hw hs hp hc hd
  refine ⟨j, inlet, hj, hplace, hlistener, hline, fun after => ?_⟩
  exact (fate_run T hw' (orderly_act T hw ho _) hline after).imp_left fun hl => ⟨hl, hl.count⟩

/-- A node listens at a place, and two connections are made; the first one
comes in there. -/
def firstComer : List (Act Script) :=
  [.listen (somePlace 1), .make .tcp "first" "near" "far" 1024 {},
    .make .tcp "second" "near" "far" 1024 {}, .deliver "tcp://192.0.2.1:9" 0]

/-- The second one comes in behind it.  The listener takes the first one and is
ended, so the second one is dropped. -/
theorem inbound_served_once_second :
    let w := scriptedNode.run Script.transport firstComer
    let w' := w.act Script.transport (.deliver "tcp://192.0.2.1:9" 1)
    let after : List (Act Script) := [.inlet 0, .unlisten (somePlace 1)]
    (∃ j ahead, w'.InLine j 1 ahead ∧
      (Lined Script.transport w' j 1 ahead after ∧
        after.countP (Act.isMoveOfInlet j) ≤ ahead ∨ Fate Script.transport w' j 1 ahead after)) ∧
    w'.place 0 = .queued 0 ∧ w'.place 1 = .queued 0 ∧
    (w'.run Script.transport after).place 0 = .taken 0 ∧
    (w'.run Script.transport after).place 1 = .queued 0 ∧
    (w'.run Script.transport after).wire? 1 = some (Wire.new 1024 {}).drop ∧
    ((w'.run Script.transport after).handler? 0).map (·.link) =
      some ⟨"first", .tcp, "near", "far", true, false, {}⟩ := by
  intro w w' after
  have h := (inbound_served_once Script.transport (.replicate 0xaa) {} .collect {} firstComer).1
    "tcp://192.0.2.1:9" 1 ⟨1, .tcp, "second", "near", "far"⟩ (by decide +kernel)
    (by decide +kernel) (by decide +kernel)
  obtain ⟨j, inlet, -, -, -, hline, hfates⟩ := h
  exact ⟨⟨j, inlet.queue.length, hline, hfates after⟩, by decide +kernel, by decide +kernel,
    by decide +kernel, by decide +kernel, by decide +kernel, by decide +kernel⟩

end World

end LinkLayer

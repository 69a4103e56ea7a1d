/-
  LinkLayer.Proofs.World.Sound
  ────────────────────────────
  **WHAT EVERY ACT KEEPS.**

  `Sound` is what holds of a world at any time:

    • a connection is with one party at most, and a connection that no task
      has was not used by anyone,
    • the task that has a connection runs its handler, or has run it to the
      end; record, wire and signal are as the handler's phase demands
      (`Attends`),
    • the registry has one entry for a key, and the entries are those that
      the handlers hold.

  A world stays sound in one of four ways: nothing happens to the links, a
  task without a connection is put to work, a connection is given to a task,
  or a task with a connection goes on.
-/
import LinkLayer.Proofs.Link.Entry
import LinkLayer.Proofs.Manager.Keeping

namespace LinkLayer

/-! ## §1. Tasks and their connections. -/

/-- A link carries the labels of its connection. -/
structure Link.Labelled (l : Link) (c : Connection) : Prop where
  name : l.name = c.name
  kind : l.kind = c.kind
  source : l.source = c.source
  remote : l.remote = c.remote

/-- A handler has done with its connection what its phase demands.  Its signal
has fired if it was registered and has ended, and not otherwise. -/
structure Handler.Tends (me : Identity) (fired : List Nat) (c : Connection) (wire : Wire)
    (ds : List Deed) (h : Handler) : Prop where
  number : h.number = c.wire
  labels : h.link.Labelled c
  staged : h.Staged
  chronicle : h.Chronicle ds
  wired : h.Wired me wire
  receipt : Handler.Receipt wire ds
  fired : c.wire ∈ fired ↔ h.outcome?.isSome = true ∧ Handler.Registered ds

/-- The same for a link that is over. -/
structure Link.Closed (me : Identity) (fired : List Nat) (c : Connection) (wire : Wire)
    (ds : List Deed) (outcome : Outcome) (l : Link) : Prop where
  labels : l.Labelled c
  ended : Handler.Over l c.wire ds outcome
  stamped : Handler.Stamped (l.frame me).encode wire
  receipt : Handler.Receipt wire ds
  fired : c.wire ∈ fired ↔ Handler.Registered ds

/-- A new handler tends a connection that nobody has used. -/
theorem Handler.tends_handlerFor {me : Identity} {fired : List Nat} {c : Connection}
    {wire : Wire} (incoming forced : Bool) (options : LinkOptions)
    (hrec : wire.record = {}) (hfired : c.wire ∉ fired) :
    (Manager.handlerFor c incoming forced options).Tends me fired c wire [] where
  number := rfl
  labels := ⟨rfl, rfl, rfl, rfl⟩
  staged := ⟨rfl, rfl⟩
  chronicle := rfl
  wired := hrec
  receipt := by
    intro octets ho
    cases ho
  fired := by
    refine iff_of_false hfired ?_
    rintro ⟨hsome, -⟩
    cases hsome

/-- A task has run the handler of a connection so far, or to its end. -/
def Attends (me : Identity) (fired : List Nat) (c : Connection) (wire : Wire)
    (ds : List Deed) : Activity → Prop
  | .handling h => h.Tends me fired c wire ds
  | .done outcome => ∃ l : Link, l.Closed me fired c wire ds outcome
  | _ => False

/-- Whatever a task is at, its link has a record, and a wire that shows the
link's frame. -/
theorem Attends.story {me : Identity} {fired : List Nat} {c : Connection} {wire : Wire}
    {ds : List Deed} {activity : Activity} (h : Attends me fired c wire ds activity) :
    ∃ l : Link, l.Labelled c ∧ Handler.Story l c.wire ds ∧
      Handler.Stamped (l.frame me).encode wire ∧ Handler.Receipt wire ds := by
  cases activity with
  | handling handler =>
      have ht : handler.Tends me fired c wire ds := h
      exact ⟨handler.link, ht.labels, ht.number ▸ ht.chronicle.story, ht.wired.stamped,
        ht.receipt⟩
  | done outcome =>
      obtain ⟨l, hl⟩ := h
      exact ⟨l, hl.labels, hl.ended.story, hl.stamped, hl.receipt⟩
  | calling target => exact h.elim
  | dialling target options => exact h.elim

/-- Signals of other links do not matter. -/
theorem Attends.of_fired {me : Identity} {fired fired' : List Nat} {c : Connection}
    {wire wire' : Wire} {ds : List Deed} {activity : Activity}
    (h : Attends me fired c wire ds activity) (hf : c.wire ∈ fired' ↔ c.wire ∈ fired)
    (hw : wire'.record = wire.record) : Attends me fired' c wire' ds activity := by
  -- Of the wire, only the record matters.
  obtain ⟨htaken, hsent, hcloses⟩ := Wire.Record.mk.inj hw
  have hreceipt : Handler.Receipt wire ds → Handler.Receipt wire' ds := by
    intro hr octets ho
    rw [htaken]
    exact hr octets ho
  cases activity with
  | handling handler =>
      have ht : handler.Tends me fired c wire ds := h
      refine ⟨ht.number, ht.labels, ht.staged, ht.chronicle, ?_, hreceipt ht.receipt,
        hf.trans ht.fired⟩
      have hwired := ht.wired
      unfold Handler.Wired Handler.Stamped at *
      rw [hw, htaken, hsent]
      exact hwired
  | done outcome =>
      obtain ⟨l, hl⟩ := h
      refine ⟨l, hl.labels, hl.ended, ?_, hreceipt hl.receipt, hf.trans hl.fired⟩
      have hstamped := hl.stamped
      unfold Handler.Stamped at *
      rw [hsent]
      exact hstamped
  | calling target => exact h.elim
  | dialling target options => exact h.elim

/-! ## §2. Sound worlds. -/

namespace World

variable {σ : Type}

/-- What holds of a world at any time. -/
structure Sound (me : Identity) (w : World σ) : Prop where
  identity : w.manager.identity = me
  fresh : ∀ n, w.next ≤ n → w.connection n = none ∧ w.place n = .unmade
  unwired : ∀ n, w.next ≤ n → w.wire? n = none
  made : ∀ n c, w.connection n = some c → c.wire = n ∧ ∃ wire, w.wire? n = some wire
  tasks : ∀ t task, w.manager.tasks.find? t = some task →
    t < w.next ∧ (w.connection t = none ∨ w.place t = .taken t)
  inlets : w.manager.inlets.numbers.Nodup
  queued : ∀ j inlet, w.manager.inlets.find? j = some inlet → ∀ c ∈ inlet.queue,
    w.connection c.wire = some c ∧ w.place c.wire = .queued j
  queues : ∀ j inlet, w.manager.inlets.find? j = some inlet →
    (inlet.queue.map (·.wire)).Nodup
  idle : ∀ n, (∀ t, w.place n ≠ .taken t) → w.deedsOf n = [] ∧
    n ∉ w.manager.registry.fired ∧ ∀ wire, w.wire? n = some wire → wire.record = {}
  attended : ∀ n t, w.place n = .taken t → ∃ c wire task, w.connection n = some c ∧
    w.wire? n = some wire ∧ w.manager.tasks.find? t = some task ∧
    Attends me w.manager.registry.fired c wire (w.deedsOf n) task.activity
  holders : ∀ t h, w.handler? t = some h → w.place h.number = .taken t
  proper : w.manager.registry.Proper
  entries : ∀ e, e ∈ w.manager.registry.entries ↔
    ∃ t h, w.handler? t = some h ∧ h.entry? = some e

theorem sound_start (me : Identity) (settings : Settings) (engine : Engine) (state : σ) :
    (start me settings engine state).Sound me where
  identity := rfl
  fresh := fun _ _ => ⟨rfl, rfl⟩
  unwired := fun _ _ => rfl
  made := by
    intro n c hc
    cases hc
  tasks := by
    intro t task ht
    cases ht
  inlets := List.nodup_nil
  queued := by
    intro j inlet hj
    cases hj
  queues := by
    intro j inlet hj
    cases hj
  idle := by
    intro n _
    refine ⟨rfl, List.not_mem_nil, ?_⟩
    intro wire hw
    cases hw
  attended := by
    intro n t hp
    cases hp
  holders := by
    intro t h hh
    cases hh
  proper := List.Pairwise.nil
  entries := by
    intro e
    constructor
    · intro he
      cases he
    · rintro ⟨t, h, hh, -⟩
      cases hh

/-! ## §3. Looking into a sound world. -/

variable {me : Identity} {w : World σ}

theorem handler?_of_find? {t : Nat} {task : Task} (ht : w.manager.tasks.find? t = some task) :
    w.handler? t = task.handler? := by
  unfold handler?
  rw [ht]
  rfl

/-- The task that runs a handler. -/
theorem find?_of_handler? {t : Nat} {h : Handler} (hh : w.handler? t = some h) :
    ∃ origin, w.manager.tasks.find? t = some ⟨origin, .handling h⟩ := by
  obtain ⟨⟨origin, activity⟩, ht, hth⟩ := Option.bind_eq_some_iff.mp hh
  cases activity with
  | handling handler =>
      cases hth
      exact ⟨origin, ht⟩
  | _ => cases hth

/-- A task that runs a handler runs it on the connection that it has. -/
theorem Sound.tends (hw : w.Sound me) {t : Nat} {h : Handler} (hh : w.handler? t = some h) :
    ∃ c wire, w.connection h.number = some c ∧ w.wire? h.number = some wire ∧
      c.wire = h.number ∧
      h.Tends me w.manager.registry.fired c wire (w.deedsOf h.number) := by
  obtain ⟨c, wire, task, hc, hwire, ht, hatt⟩ := hw.attended h.number t (hw.holders t h hh)
  obtain ⟨origin, ht'⟩ := find?_of_handler? hh
  cases ht.symm.trans ht'
  exact ⟨c, wire, hc, hwire, (hw.made _ _ hc).1, hatt⟩

/-- The same, on a wire that is known. -/
theorem Sound.tends_on (hw : w.Sound me) {t n : Nat} {h : Handler} {wire : Wire}
    (hh : w.handler? t = some h) (hn : h.number = n) (hwire : w.wire? n = some wire) :
    ∃ c, w.connection n = some c ∧ c.wire = n ∧
      h.Tends me w.manager.registry.fired c wire (w.deedsOf n) := by
  subst hn
  obtain ⟨c, wire', hc, hwire', hcw, htends⟩ := hw.tends hh
  cases hwire.symm.trans hwire'
  exact ⟨c, hc, hcw, htends⟩

/-- Whatever is on record was done by the task that has the connection. -/
theorem Sound.of_mem_deedsOf (hw : w.Sound me) {n : Nat} {d : Deed} (hd : d ∈ w.deedsOf n) :
    ∃ t c wire task, w.place n = .taken t ∧ w.connection n = some c ∧ c.wire = n ∧
      w.wire? n = some wire ∧ w.manager.tasks.find? t = some task ∧
      Attends me w.manager.registry.fired c wire (w.deedsOf n) task.activity := by
  have htaken : ∃ t, w.place n = .taken t := by
    by_contra hnone
    rw [(hw.idle n (not_exists.mp hnone)).1] at hd
    cases hd
  obtain ⟨t, hp⟩ := htaken
  obtain ⟨c, wire, task, hc, hwire, ht, hatt⟩ := hw.attended n t hp
  exact ⟨t, c, wire, task, hp, hc, (hw.made n c hc).1, hwire, ht, hatt⟩

/-- The record of a connection tells a story of a link with its labels. -/
theorem Sound.story (hw : w.Sound me) {n : Nat} {d : Deed} (hd : d ∈ w.deedsOf n) :
    ∃ l c, w.connection n = some c ∧ l.Labelled c ∧ Handler.Story l n (w.deedsOf n) := by
  obtain ⟨t, c, wire, task, -, hc, rfl, -, -, hatt⟩ := hw.of_mem_deedsOf hd
  obtain ⟨l, hlabels, hstory, -⟩ := hatt.story
  exact ⟨l, c, hc, hlabels, hstory⟩

/-- Entries go under the numbers of their handlers. -/
theorem Sound.entry_id (hw : w.Sound me) {t : Nat} {h : Handler} {e : Handle}
    (hh : w.handler? t = some h) (he : h.entry? = some e) : e.id = h.number := by
  obtain ⟨c, wire, -, -, -, htends⟩ := hw.tends hh
  obtain ⟨peer, rfl⟩ := htends.chronicle.entry_id he
  rfl

/-- Only one task runs a handler of a connection. -/
theorem Sound.task_of_number (hw : w.Sound me) {n t t' : Nat} (hp : w.place n = .taken t)
    {h : Handler} (hh : w.handler? t' = some h) (hn : h.number = n) : t' = t := by
  have hp' := hw.holders t' h hh
  rw [hn, hp] at hp'
  cases hp'
  rfl

/-- Two tasks do not run handlers of one connection. -/
theorem Sound.task_eq (hw : w.Sound me) {t t' : Nat} {h h' : Handler}
    (hh : w.handler? t = some h) (hh' : w.handler? t' = some h')
    (hn : h.number = h'.number) : t = t' := by
  exact hw.task_of_number (hw.holders t' h' hh') hh hn

/-- A task that calls or dials has no connection yet. -/
theorem Sound.place_ne (hw : w.Sound me) {t : Nat} {task : Task}
    (ht : w.manager.tasks.find? t = some task)
    (ha : ∀ fired c wire ds, ¬ Attends me fired c wire ds task.activity) (n : Nat) :
    w.place n ≠ .taken t := by
  intro hp
  obtain ⟨c, wire, task', -, -, ht', hatt⟩ := hw.attended n t hp
  rw [ht] at ht'
  cases ht'
  exact ha _ _ _ _ hatt

/-- Nobody has a connection through a task that there is not. -/
theorem Sound.place_ne_of_none (hw : w.Sound me) {t : Nat}
    (ht : w.manager.tasks.find? t = none) (n : Nat) : w.place n ≠ .taken t := by
  intro hp
  obtain ⟨c, wire, task', -, -, ht', -⟩ := hw.attended n t hp
  rw [ht] at ht'
  cases ht'

/-- A connection that no task has was made only. -/
theorem Sound.no_task (hw : w.Sound me) {n : Nat} {c : Connection}
    (hc : w.connection n = some c) (hp : w.place n ≠ .taken n) :
    w.manager.tasks.find? n = none := by
  cases ht : w.manager.tasks.find? n with
  | none => rfl
  | some task =>
      rcases (hw.tasks n task ht).2 with hnone | htaken
      · rw [hc] at hnone
        cases hnone
      · exact absurd htaken hp

/-- A number that was not given out yet has no connection. -/
theorem Sound.lt_next (hw : w.Sound me) {n : Nat} {c : Connection}
    (hc : w.connection n = some c) : n < w.next := by
  by_contra hge
  cases hc.symm.trans (hw.fresh n (Nat.le_of_not_lt hge)).1

/-- The task that has a connection, with what it has done. -/
theorem Sound.task_of_place (hw : w.Sound me) {n t : Nat} (hp : w.place n = .taken t) :
    ∃ c wire task, w.manager.tasks.find? t = some task ∧
      Attends me w.manager.registry.fired c wire (w.deedsOf n) task.activity ∧ c.wire = n := by
  obtain ⟨c, wire, task, hc, -, ht, hatt⟩ := hw.attended n t hp
  exact ⟨c, wire, task, ht, hatt, (hw.made n c hc).1⟩

/-- A task runs the handler of the connection that it has. -/
theorem Sound.number_of_place (hw : w.Sound me) {n t : Nat} (hp : w.place n = .taken t)
    {h : Handler} (hh : w.handler? t = some h) : h.number = n ∧ h.Chronicle (w.deedsOf n) := by
  obtain ⟨c, wire, task, ht, hatt, hcn⟩ := hw.task_of_place hp
  obtain ⟨origin, ht'⟩ := find?_of_handler? hh
  cases ht.symm.trans ht'
  have htends : h.Tends me w.manager.registry.fired c wire (w.deedsOf n) := hatt
  exact ⟨htends.number.trans hcn, htends.chronicle⟩

/-- The link of a connection that a task has is over when the task's handler
has ended. -/
theorem Sound.outcome_of_handler (hw : w.Sound me) {t : Nat} {h : Handler}
    (hh : w.handler? t = some h) : w.outcome? h.number = h.outcome? := by
  obtain ⟨origin, ht⟩ := find?_of_handler? hh
  unfold outcome?
  rw [hw.holders t h hh]
  simp only [ht, Option.bind_some]

/-! ## §4. Four ways to stay sound. -/

theorem deedsOf_append (w : World σ) (m : Manager σ) (n k : Nat) (ds : List Deed) :
    deedsOf { w with manager := m, deeds := w.deeds ++ ds.map (n, ·) } k =
      if k = n then w.deedsOf k ++ ds else w.deedsOf k := by
  unfold deedsOf
  rw [List.filterMap_append, List.filterMap_map]
  split
  · next hk =>
      subst hk
      congr 1
      induction ds with
      | nil => rfl
      | cons d rest ih => simp_all
  · next hk =>
      have hnone : ds.filterMap ((fun d => if d.1 = k then some d.2 else none) ∘ (n, ·)) =
          ([] : List Deed) := by
        rw [List.filterMap_eq_nil_iff]
        intro d _
        exact if_neg fun h => hk h.symm
      rw [hnone, List.append_nil]

/-- Where the records are the same, a wire is still there. -/
theorem exists_of_record {o o' : Option Wire} {wire : Wire}
    (h : o'.map Wire.record = o.map Wire.record) (hwire : o = some wire) :
    ∃ wire', o' = some wire' ∧ wire'.record = wire.record := by
  rw [hwire] at h
  obtain ⟨wire', hwire', hrecord⟩ := Option.map_eq_some_iff.mp h
  exact ⟨wire', hwire', hrecord⟩

/-- The links and what was taken and sent are the same; connections that no
task has may change hands. -/
theorem Sound.of_quiet (hw : w.Sound me) {w' : World σ} (hnext : w'.next = w.next)
    (hconn : w'.connection = w.connection) (hdeeds : w'.deeds = w.deeds)
    (hidentity : w'.manager.identity = w.manager.identity)
    (htasks : w'.manager.tasks = w.manager.tasks)
    (hregistry : w'.manager.registry = w.manager.registry)
    (hwires : ∀ n, (w'.wire? n).map Wire.record = (w.wire? n).map Wire.record)
    (hplace : ∀ n t, w'.place n = .taken t ↔ w.place n = .taken t)
    (hfresh : ∀ n, w.next ≤ n → w'.place n = .unmade)
    (hinlets : w'.manager.inlets.numbers.Nodup)
    (hqueued : ∀ j inlet, w'.manager.inlets.find? j = some inlet → ∀ c ∈ inlet.queue,
      w.connection c.wire = some c ∧ w'.place c.wire = .queued j)
    (hqueues : ∀ j inlet, w'.manager.inlets.find? j = some inlet →
      (inlet.queue.map (·.wire)).Nodup) : w'.Sound me := by
  have hds : ∀ n, w'.deedsOf n = w.deedsOf n := by
    intro n
    unfold deedsOf
    rw [hdeeds]
  have hhandler : ∀ t, w'.handler? t = w.handler? t := by
    intro t
    unfold handler?
    rw [htasks]
  constructor
  case identity => exact hidentity.trans hw.identity
  case fresh =>
      intro n hn
      rw [hnext] at hn
      rw [hconn]
      exact ⟨(hw.fresh n hn).1, hfresh n hn⟩
  case unwired =>
      intro n hn
      rw [hnext] at hn
      cases hwire' : w'.wire? n with
      | none => rfl
      | some wire' =>
          obtain ⟨wire, hwire, -⟩ := exists_of_record (hwires n).symm hwire'
          rw [hw.unwired n hn] at hwire
          cases hwire
  case made =>
      intro n c hc
      rw [hconn] at hc
      obtain ⟨hcw, wire, hwire⟩ := hw.made n c hc
      obtain ⟨wire', hwire', -⟩ := exists_of_record (hwires n) hwire
      exact ⟨hcw, wire', hwire'⟩
  case tasks =>
      intro t task ht
      rw [htasks] at ht
      rw [hnext, hconn, hplace]
      exact hw.tasks t task ht
  case inlets => exact hinlets
  case queued =>
      rw [hconn]
      exact hqueued
  case queues => exact hqueues
  case idle =>
      intro n hn
      have hn' : ∀ t, w.place n ≠ .taken t := fun t hp => hn t ((hplace n t).mpr hp)
      obtain ⟨hnil, hfired, hrec⟩ := hw.idle n hn'
      rw [hds, hregistry]
      refine ⟨hnil, hfired, ?_⟩
      intro wire' hwire'
      obtain ⟨wire, hwire, heq⟩ := exists_of_record (hwires n).symm hwire'
      rw [← heq]
      exact hrec wire hwire
  case attended =>
      intro n t hp
      obtain ⟨c, wire, task, hc, hwire, ht, hatt⟩ := hw.attended n t ((hplace n t).mp hp)
      obtain ⟨wire', hwire', heq⟩ := exists_of_record (hwires n) hwire
      rw [hconn, htasks, hds, hregistry]
      exact ⟨c, wire', task, hc, hwire', ht, hatt.of_fired Iff.rfl heq⟩
  case holders =>
      intro t h hh
      rw [hhandler] at hh
      exact (hplace _ t).mpr (hw.holders t h hh)
  case proper => exact hregistry ▸ hw.proper
  case entries =>
      intro e
      rw [hregistry, hw.entries]
      simp only [hhandler]

/-- The handlers of the tasks after one of them was replaced. -/
theorem handler?_put (tasks : Table Task) (t k : Nat) (task : Task) :
    ((tasks.put t task).find? k).bind Task.handler? =
      if k = t then task.handler? else (tasks.find? k).bind Task.handler? := by
  rw [Table.find?_put]
  split
  · rfl
  · rfl

/-- The tasks after one of them was replaced. -/
theorem tasks_of_put {tasks tasks' : Table Task} {t : Nat} {task : Task}
    (h : tasks' = tasks.put t task) :
    tasks'.find? t = some task ∧ ∀ k, k ≠ t → tasks'.find? k = tasks.find? k := by
  subst h
  exact ⟨Table.find?_put_self _ _ _, fun k hk => Table.find?_put_ne _ _ hk⟩

/-- A task that has no connection, and does not get one, is put to work or
ends. -/
theorem Sound.of_spawn (hw : w.Sound me) {t next' : Nat} {task : Task} {m : Manager σ}
    (htask : task.handler? = none) (ht : ∀ n, w.place n ≠ .taken t)
    (hc : w.connection t = none) (hnext : w.next ≤ next') (hlt : t < next')
    (hm : Manager.Like { w.manager with tasks := w.manager.tasks.put t task } m) :
    Sound me { w with next := next', manager := m } := by
  have hwire : ∀ n, wire? { w with next := next', manager := m } n = w.wire? n := by
    intro n
    show m.wires.find? n = _
    rw [hm.wires]
    rfl
  obtain ⟨-, hother⟩ := tasks_of_put hm.tasks
  -- The handlers are those of the other tasks.
  have hholder : ∀ k h, handler? { w with next := next', manager := m } k = some h ↔
      k ≠ t ∧ w.handler? k = some h := by
    intro k h
    show (m.tasks.find? k).bind _ = _ ↔ _
    rw [hm.tasks, handler?_put, htask]
    split
    · next hk => simp [hk]
    · next hk => simp [hk, handler?]
  constructor
  case identity => exact hm.identity.trans hw.identity
  case fresh =>
      intro n hn
      exact hw.fresh n (Nat.le_trans hnext hn)
  case unwired =>
      intro n hn
      rw [hwire]
      exact hw.unwired n (Nat.le_trans hnext hn)
  case made =>
      intro n c hcon
      rw [hwire]
      exact hw.made n c hcon
  case tasks =>
      intro k task' hk
      by_cases hkt : k = t
      · rw [hkt]
        exact ⟨hlt, .inl hc⟩
      · obtain ⟨hk', hor⟩ := hw.tasks k task' ((hother k hkt) ▸ hk)
        exact ⟨Nat.lt_of_lt_of_le hk' hnext, hor⟩
  case inlets =>
      show m.inlets.numbers.Nodup
      rw [hm.inlets]
      exact hw.inlets
  case queued =>
      intro j inlet hj
      exact hw.queued j inlet (hm.inlets ▸ hj)
  case queues =>
      intro j inlet hj
      exact hw.queues j inlet (hm.inlets ▸ hj)
  case idle =>
      intro n hn
      rw [hwire]
      show _ ∧ n ∉ m.registry.fired ∧ _
      rw [hm.registry]
      exact hw.idle n hn
  case attended =>
      intro n k hp
      have hk : k ≠ t := fun hkt => ht n (hkt ▸ hp)
      obtain ⟨c, wire, task', hcon, hwn, hf, hatt⟩ := hw.attended n k hp
      rw [hwire]
      refine ⟨c, wire, task', hcon, hwn, (hother k hk).trans hf, ?_⟩
      show Attends me m.registry.fired c wire _ _
      rw [hm.registry]
      exact hatt
  case holders =>
      intro k h hh
      exact hw.holders k h ((hholder k h).mp hh).2
  case proper =>
      show m.registry.Proper
      rw [hm.registry]
      exact hw.proper
  case entries =>
      intro e
      show e ∈ m.registry.entries ↔ _
      rw [hm.registry]
      show e ∈ w.manager.registry.entries ↔ _
      rw [hw.entries]
      simp only [hholder]
      -- The task held no entry, since it had no connection.
      constructor
      · rintro ⟨k, h, hh, he⟩
        refine ⟨k, h, ⟨?_, hh⟩, he⟩
        intro hkt
        exact ht _ (hkt ▸ hw.holders k h hh)
      · rintro ⟨k, h, ⟨-, hh⟩, he⟩
        exact ⟨k, h, hh, he⟩

/-- A connection that no task has is given to a task, with a handler that did
nothing yet. -/
theorem Sound.of_take (hw : w.Sound me) {c : Connection} {t : Nat} {origin : Origin}
    {incoming forced : Bool} {options : LinkOptions} {inlets : Table Inlet} {m : Manager σ}
    (hc : w.connection c.wire = some c) (hfree : ∀ k, w.place c.wire ≠ .taken k)
    (ht : ∀ n, w.place n ≠ .taken t) (hlt : t < w.next)
    (hnone : t = c.wire ∨ w.connection t = none)
    (hm : Manager.Like
      { w.manager with
        tasks := w.manager.tasks.put t
          ⟨origin, .handling (Manager.handlerFor c incoming forced options)⟩
        inlets } m)
    (hinlets : inlets.numbers.Nodup)
    (hqueued : ∀ j inlet, inlets.find? j = some inlet → ∀ c' ∈ inlet.queue,
      w.connection c'.wire = some c' ∧ w.place c'.wire = .queued j ∧ c'.wire ≠ c.wire)
    (hqueues : ∀ j inlet, inlets.find? j = some inlet → (inlet.queue.map (·.wire)).Nodup) :
    Sound me (give { w with manager := m } c.wire (.taken t)) := by
  -- The task has this connection, and what tasks had before they have still.
  have hplace : ∀ n k, Function.update w.place c.wire (.taken t) n = .taken k ↔
      (n = c.wire ∧ k = t) ∨ (n ≠ c.wire ∧ w.place n = .taken k) := by
    intro n k
    by_cases hn : n = c.wire
    · subst hn
      simp [eq_comm]
    · simp [hn]
  have hwire : ∀ n, wire? (give { w with manager := m } c.wire (.taken t)) n = w.wire? n := by
    intro n
    show m.wires.find? n = _
    rw [hm.wires]
    rfl
  obtain ⟨hself, hother⟩ := tasks_of_put hm.tasks
  have hholder : ∀ k h, handler? (give { w with manager := m } c.wire (.taken t)) k = some h ↔
      (k = t ∧ h = Manager.handlerFor c incoming forced options) ∨
        (k ≠ t ∧ w.handler? k = some h) := by
    intro k h
    show (m.tasks.find? k).bind _ = _ ↔ _
    rw [hm.tasks, handler?_put]
    split
    · next hk => simp [hk, Task.handler?, eq_comm]
    · next hk => simp [hk, handler?]
  obtain ⟨hnil, hfired, hrec⟩ := hw.idle c.wire hfree
  have hin : m.inlets = inlets := hm.inlets
  constructor
  case identity => exact hm.identity.trans hw.identity
  case fresh =>
      intro n hn
      obtain ⟨hcn, hpn⟩ := hw.fresh n hn
      have hne : n ≠ c.wire := by
        rintro rfl
        rw [hc] at hcn
        cases hcn
      exact ⟨hcn, (Function.update_of_ne hne _ _).trans hpn⟩
  case unwired =>
      intro n hn
      rw [hwire]
      exact hw.unwired n hn
  case made =>
      intro n c' hcon
      rw [hwire]
      exact hw.made n c' hcon
  case tasks =>
      intro k task' hk
      show k < w.next ∧ (w.connection k = none ∨ Function.update _ _ _ k = _)
      rw [hplace]
      by_cases hkt : k = t
      · subst hkt
        refine ⟨hlt, ?_⟩
        rcases hnone with heq | hnone
        · exact .inr (.inl ⟨heq, rfl⟩)
        · exact .inl hnone
      · obtain ⟨hk', hor⟩ := hw.tasks k task' ((hother k hkt) ▸ hk)
        refine ⟨hk', ?_⟩
        rcases hor with hcn | hpn
        · exact .inl hcn
        · refine .inr (.inr ⟨?_, hpn⟩)
          intro hkc
          exact hfree k (hkc ▸ hpn)
  case inlets =>
      show m.inlets.numbers.Nodup
      rw [hin]
      exact hinlets
  case queued =>
      intro j inlet hj c' hc'
      obtain ⟨hcon, hp, hne⟩ := hqueued j inlet (hin ▸ hj) c' hc'
      exact ⟨hcon, (Function.update_of_ne hne _ _).trans hp⟩
  case queues =>
      intro j inlet hj
      exact hqueues j inlet (hin ▸ hj)
  case idle =>
      intro n hn
      have hne : n ≠ c.wire := fun hnc => hn t ((hplace n t).mpr (.inl ⟨hnc, rfl⟩))
      rw [hwire]
      show _ ∧ n ∉ m.registry.fired ∧ _
      rw [hm.registry]
      refine hw.idle n fun k hp => hn k ((hplace n k).mpr (.inr ⟨hne, hp⟩))
  case attended =>
      intro n k hp
      rw [hwire]
      rcases (hplace n k).mp hp with ⟨rfl, rfl⟩ | ⟨hne, hp'⟩
      · -- The connection that is taken: its handler is new, and its wire unused.
        obtain ⟨-, wire, hwn⟩ := hw.made _ _ hc
        refine ⟨c, wire, _, hc, hwn, hself, ?_⟩
        show (Manager.handlerFor c incoming forced options).Tends me m.registry.fired c wire
          (w.deedsOf c.wire)
        rw [hm.registry, hnil]
        exact Handler.tends_handlerFor _ _ _ (hrec wire hwn) hfired
      · -- Any other connection is with another task.
        have hk : k ≠ t := fun hkt => ht n (hkt ▸ hp')
        obtain ⟨c', wire, task', hcon, hwn, hf, hatt⟩ := hw.attended n k hp'
        refine ⟨c', wire, task', hcon, hwn, (hother k hk).trans hf, ?_⟩
        show Attends me m.registry.fired c' wire _ _
        rw [hm.registry]
        exact hatt
  case holders =>
      intro k h hh
      refine (hplace _ _).mpr ?_
      rcases (hholder k h).mp hh with ⟨rfl, rfl⟩ | ⟨hk, hh'⟩
      · exact .inl ⟨rfl, rfl⟩
      · have hp := hw.holders k h hh'
        exact .inr ⟨fun hn => hfree k (hn ▸ hp), hp⟩
  case proper =>
      show m.registry.Proper
      rw [hm.registry]
      exact hw.proper
  case entries =>
      intro e
      show e ∈ m.registry.entries ↔ _
      rw [hm.registry]
      show e ∈ w.manager.registry.entries ↔ _
      rw [hw.entries]
      simp only [hholder]
      constructor
      · rintro ⟨k, h, hh, he⟩
        have hk : k ≠ t := fun hkt => ht _ (hkt ▸ hw.holders k h hh)
        exact ⟨k, h, .inr ⟨hk, hh⟩, he⟩
      · rintro ⟨k, h, ⟨rfl, rfl⟩ | ⟨-, hh⟩, he⟩
        · cases he
        · exact ⟨k, h, hh, he⟩

/-- One handler makes room for another one, or for none, and the entries follow:
they are still those that handlers hold. -/
theorem Sound.mem_entries_of_update (hw : w.Sound me) {t : Nat} {h : Handler}
    {next : Option Handler} {holder : Nat → Option Handler} {entries : List Handle}
    (hh : w.handler? t = some h)
    (hholder : ∀ k, holder k = if k = t then next else w.handler? k)
    (hentries : ∀ e, e ∈ entries ↔
      (e ∈ w.manager.registry.entries ∧ h.entry? ≠ some e) ∨
        next.bind Handler.entry? = some e) (e : Handle) :
    e ∈ entries ↔ ∃ k h', holder k = some h' ∧ h'.entry? = some e := by
  rw [hentries, hw.entries]
  constructor
  · rintro (⟨⟨k, h', hh', he⟩, hne⟩ | hown)
    · have hk : k ≠ t := by
        rintro rfl
        rw [hh] at hh'
        cases hh'
        exact hne he
      exact ⟨k, h', (hholder k).trans ((if_neg hk).trans hh'), he⟩
    · obtain ⟨h', hh', he⟩ := Option.bind_eq_some_iff.mp hown
      exact ⟨t, h', (hholder t).trans ((if_pos rfl).trans hh'), he⟩
  · rintro ⟨k, h', hh', he⟩
    rw [hholder] at hh'
    split at hh'
    · exact .inr (Option.bind_eq_some_iff.mpr ⟨h', hh', he⟩)
    · next hk =>
        refine .inl ⟨⟨k, h', hh', he⟩, ?_⟩
        -- One entry in two hands would be one connection with two tasks.
        intro hown
        exact hk (hw.task_eq hh' hh ((hw.entry_id hh' he).symm.trans (hw.entry_id hh hown)))

/-- A connection that is not the one of a handler is attended by another task,
whatever becomes of the handler and its signal. -/
theorem Sound.attended_of_ne (hw : w.Sound me) {t n k : Nat} {origin : Origin} {h : Handler}
    {fired : List Nat} (ht : w.manager.tasks.find? t = some ⟨origin, .handling h⟩)
    (hn : n ≠ h.number) (hp : w.place n = .taken k)
    (hfired : n ∈ fired ↔ n ∈ w.manager.registry.fired) :
    k ≠ t ∧ ∃ c wire task, w.connection n = some c ∧ w.wire? n = some wire ∧
      w.manager.tasks.find? k = some task ∧
      Attends me fired c wire (w.deedsOf n) task.activity := by
  obtain ⟨c, wire, task, hcon, hwire, hk, ha⟩ := hw.attended n k hp
  have hcn := (hw.made n c hcon).1
  refine ⟨?_, c, wire, task, hcon, hwire, hk, ha.of_fired (hcn ▸ hfired) rfl⟩
  rintro rfl
  rw [ht] at hk
  cases hk
  have htends : h.Tends me w.manager.registry.fired c wire _ := ha
  exact hn (hcn.symm.trans htends.number.symm)

/-- A task that runs a handler goes on, or ends; what it does is put on
record. -/
theorem Sound.of_update (hw : w.Sound me) {t : Nat} {origin : Origin} {h : Handler}
    {m : Manager σ} (ht : w.manager.tasks.find? t = some ⟨origin, .handling h⟩)
    (activity : Activity) (wire : Wire) (wires : Table Wire) (registry : Registry)
    (ds : List Deed)
    (hm : Manager.Like
      { w.manager with
        tasks := w.manager.tasks.put t ⟨origin, activity⟩
        wires
        registry } m)
    (hwires : ∀ n, wires.find? n = if n = h.number then some wire else w.wire? n)
    (hproper : registry.Proper)
    (hentries : ∀ e, e ∈ registry.entries ↔
      (e ∈ w.manager.registry.entries ∧ h.entry? ≠ some e) ∨
        (Task.handler? ⟨origin, activity⟩).bind Handler.entry? = some e)
    (hfired : ∀ n, n ≠ h.number → (n ∈ registry.fired ↔ n ∈ w.manager.registry.fired))
    (hatt : ∀ c, w.connection h.number = some c → c.wire = h.number →
      Attends me registry.fired c wire (w.deedsOf h.number ++ ds) activity) :
    Sound me { w with manager := m, deeds := w.deeds ++ ds.map (h.number, ·) } := by
  have hh : w.handler? t = some h := handler?_of_find? ht
  obtain ⟨c, wire₀, hc, hwire₀, hcw, -⟩ := hw.tends hh
  have hpt := hw.holders t h hh
  have hatt' := hatt c hc hcw
  have hreg : m.registry = registry := hm.registry
  have hwire : ∀ n, m.wires.find? n = if n = h.number then some wire else w.wire? n := by
    intro n
    rw [hm.wires]
    exact hwires n
  obtain ⟨hself, hother⟩ := tasks_of_put hm.tasks
  have hholder : ∀ k, (m.tasks.find? k).bind Task.handler? =
      if k = t then Task.handler? ⟨origin, activity⟩ else w.handler? k := by
    intro k
    rw [hm.tasks]
    exact handler?_put _ _ _ _
  -- The handler that goes on is still that of the connection.
  have hnumber : ∀ h', Task.handler? ⟨origin, activity⟩ = some h' → h'.number = h.number := by
    intro h' hh'
    cases activity with
    | handling handler =>
        cases hh'
        have htends : h'.Tends me registry.fired c wire _ := hatt'
        exact htends.number.trans hcw
    | _ => cases hh'
  constructor
  case identity => exact hm.identity.trans hw.identity
  case fresh =>
      intro n hn
      exact hw.fresh n hn
  case unwired =>
      intro n hn
      have hne : n ≠ h.number := by
        rintro rfl
        rw [(hw.fresh _ hn).1] at hc
        cases hc
      show m.wires.find? n = none
      rw [hwire, if_neg hne]
      exact hw.unwired n hn
  case made =>
      intro n c' hcon
      obtain ⟨hcw', wire', hwn⟩ := hw.made n c' hcon
      refine ⟨hcw', ?_⟩
      show ∃ wire'', m.wires.find? n = some wire''
      rw [hwire]
      split
      · exact ⟨wire, rfl⟩
      · exact ⟨wire', hwn⟩
  case tasks =>
      intro k task' hk
      by_cases hkt : k = t
      · rw [hkt]
        exact hw.tasks t _ ht
      · exact hw.tasks k task' ((hother k hkt) ▸ hk)
  case inlets =>
      show m.inlets.numbers.Nodup
      rw [hm.inlets]
      exact hw.inlets
  case queued =>
      intro j inlet hj
      exact hw.queued j inlet (hm.inlets ▸ hj)
  case queues =>
      intro j inlet hj
      exact hw.queues j inlet (hm.inlets ▸ hj)
  case idle =>
      intro n hn
      have hne : n ≠ h.number := fun hnn => hn t (hnn ▸ hpt)
      rw [deedsOf_append, if_neg hne]
      show _ ∧ n ∉ m.registry.fired ∧ ∀ wire', m.wires.find? n = some wire' → _
      rw [hreg, hfired n hne, hwire, if_neg hne]
      exact hw.idle n hn
  case attended =>
      intro n k hp
      rw [deedsOf_append]
      show ∃ c wire' task, w.connection n = some c ∧ m.wires.find? n = some wire' ∧
        m.tasks.find? k = some task ∧ Attends me m.registry.fired c wire' _ task.activity
      rw [hreg, hwire]
      by_cases hn : n = h.number
      · -- The handler's own connection stays with its task.
        subst hn
        have hpk : Place.taken k = .taken t := hp.symm.trans hpt
        cases hpk
        rw [if_pos rfl, if_pos rfl]
        exact ⟨c, wire, _, hc, rfl, hself, hatt'⟩
      · rw [if_neg hn, if_neg hn]
        obtain ⟨hk, c', wire', task', hcon, hwn, hf, ha⟩ :=
          hw.attended_of_ne ht hn hp (hfired n hn)
        exact ⟨c', wire', task', hcon, hwn, (hother k hk).trans hf, ha⟩
  case holders =>
      intro k h' hh'
      have hk := hholder k
      rw [show (m.tasks.find? k).bind Task.handler? = some h' from hh'] at hk
      split at hk
      · next hkt =>
          rw [hkt]
          show w.place h'.number = _
          rw [hnumber h' hk.symm]
          exact hpt
      · exact hw.holders k h' hk.symm
  case proper =>
      show m.registry.Proper
      rw [hreg]
      exact hproper
  case entries =>
      intro e
      show e ∈ m.registry.entries ↔
        ∃ k h', (m.tasks.find? k).bind Task.handler? = some h' ∧ h'.entry? = some e
      rw [hreg]
      exact hw.mem_entries_of_update hh hholder hentries e

end World

end LinkLayer

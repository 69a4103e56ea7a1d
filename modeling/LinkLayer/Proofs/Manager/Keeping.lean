/-
  LinkLayer.Proofs.Manager.Keeping
  ────────────────────────────────
  **WHAT LISTENERS, SETTINGS AND THE STOP LEAVE ALONE.**

  `Keeps m m'` says that nothing happened to the links on the way from `m` to
  `m'`: the tasks and the registry are the same, wires are the same or were
  dropped, and dropped were only those that waited in the queue of a listener.
  No queue of a listener got anything new.  Listening, ending a
  listener, a new configuration and the stop, in full and in its parts, are
  all of this kind.
-/
import LinkLayer.Manager.Lifecycle
import LinkLayer.Proofs.Link.Wire

namespace LinkLayer.Manager

variable {σ : Type} {m m' m'' : Manager σ}

/-- A connection waits in the queue of a listener. -/
def Queued (m : Manager σ) (n : Nat) : Prop :=
  ∃ j inlet, m.inlets.find? j = some inlet ∧ n ∈ inlet.queue.map (·.wire)

/-- Nothing happened to the links. -/
structure Keeps (m m' : Manager σ) : Prop where
  tasks : m'.tasks = m.tasks
  registry : m'.registry = m.registry
  identity : m'.identity = m.identity
  wires : ∀ n, m'.wires.find? n = m.wires.find? n ∨
    m'.wires.find? n = (m.wires.find? n).map Wire.drop
  spared : ∀ n, ¬ m.Queued n → m'.wires.find? n = m.wires.find? n
  numbers : m.inlets.numbers.Nodup → m'.inlets.numbers.Nodup
  queues : ∀ j inlet', m'.inlets.find? j = some inlet' →
    inlet'.queue = [] ∨ ∃ inlet, m.inlets.find? j = some inlet ∧ inlet'.queue = inlet.queue
  stopped : m.isStopped = true → m'.isStopped = true

namespace Keeps

theorem refl (m : Manager σ) : m.Keeps m where
  tasks := rfl
  registry := rfl
  identity := rfl
  wires := fun _ => .inl rfl
  spared := fun _ _ => rfl
  numbers := id
  queues := fun _ inlet' h => .inr ⟨inlet', h, rfl⟩
  stopped := id

theorem not_queued (h : m.Keeps m') {n : Nat} (hn : ¬ m.Queued n) : ¬ m'.Queued n := by
  rintro ⟨j, inlet', hj, hin⟩
  rcases h.queues j inlet' hj with hnil | ⟨inlet, hj', hq⟩
  · rw [hnil] at hin
    cases hin
  · exact hn ⟨j, inlet, hj', hq ▸ hin⟩

theorem trans (h : m.Keeps m') (h' : m'.Keeps m'') : m.Keeps m'' where
  tasks := h'.tasks.trans h.tasks
  registry := h'.registry.trans h.registry
  identity := h'.identity.trans h.identity
  wires := by
    intro n
    rcases h'.wires n with hw' | hw' <;> rcases h.wires n with hw | hw <;> rw [hw', hw]
    · exact .inl rfl
    · exact .inr rfl
    · exact .inr rfl
    · -- A wire that is dropped twice is a wire that is dropped.
      refine .inr ?_
      cases m.wires.find? n <;> rfl
  spared := fun n hn => (h'.spared n (h.not_queued hn)).trans (h.spared n hn)
  numbers := fun hn => h'.numbers (h.numbers hn)
  queues := by
    intro j inlet'' hj
    rcases h'.queues j inlet'' hj with he | ⟨inlet', hj', hq'⟩
    · exact .inl he
    · rw [hq']
      exact h.queues j inlet' hj'
  stopped := fun hs => h'.stopped (h.stopped hs)

/-- It is enough that links, wires and inlets are the same. -/
theorem of_same (tasks : m'.tasks = m.tasks) (registry : m'.registry = m.registry)
    (identity : m'.identity = m.identity) (wires : m'.wires = m.wires)
    (inlets : m'.inlets = m.inlets) (stopped : m.isStopped = true → m'.isStopped = true) :
    m.Keeps m' where
  tasks := tasks
  registry := registry
  identity := identity
  wires := fun n => .inl (by rw [wires])
  spared := fun n _ => by rw [wires]
  numbers := by rw [inlets]; exact id
  queues := fun j inlet' h => .inr ⟨inlet', by rw [← inlets]; exact h, rfl⟩
  stopped := stopped

end Keeps

/-- Two managers have the same links, wires and listeners' queues. -/
structure Like (m m' : Manager σ) : Prop where
  tasks : m'.tasks = m.tasks
  registry : m'.registry = m.registry
  identity : m'.identity = m.identity
  wires : m'.wires = m.wires
  inlets : m'.inlets = m.inlets
  isStopped : m'.isStopped = m.isStopped

theorem Like.refl (m : Manager σ) : m.Like m := ⟨rfl, rfl, rfl, rfl, rfl, rfl⟩

/-! ## §1. Small changes. -/

theorem keeps_report (m : Manager σ) (notices : List Notice) : m.Keeps (m.report notices) :=
  .of_same rfl rfl rfl rfl rfl id

theorem keeps_asked {α : Type} (m : Manager σ) (request : Request) (reply : Reply σ α) :
    m.Keeps (m.asked request reply) :=
  .of_same rfl rfl rfl rfl rfl id

/-- An inlet is replaced by one with an empty queue, or with the same one. -/
theorem keeps_putInlet (m : Manager σ) (j : Nat) (inlet' : Inlet)
    (h : inlet'.queue = [] ∨ ∃ inlet, m.inlets.find? j = some inlet ∧
      inlet'.queue = inlet.queue) :
    m.Keeps { m with inlets := m.inlets.put j inlet' } where
  tasks := rfl
  registry := rfl
  identity := rfl
  wires := fun _ => .inl rfl
  spared := fun _ _ => rfl
  numbers := fun hn => Table.nodup_numbers_put hn j inlet'
  queues := by
    intro k inlet'' hk
    rw [Table.find?_put] at hk
    split at hk
    · next hkj =>
        cases hk
        rw [hkj]
        exact h
    · exact .inr ⟨inlet'', hk, rfl⟩
  stopped := id

/-! ## §2. Inlets and listeners. -/

/-- The wires after several connections were dropped. -/
def dropAll (cs : List Connection) (wires : Table Wire) : Table Wire :=
  cs.foldl (fun wires c => wires.modify c.wire Wire.drop) wires

theorem find?_dropAll (cs : List Connection) (wires : Table Wire) (n : Nat) :
    (dropAll cs wires).find? n =
      if n ∈ cs.map (·.wire) then (wires.find? n).map Wire.drop else wires.find? n := by
  unfold dropAll
  induction cs generalizing wires with
  | nil => rfl
  | cons c rest ih =>
      rw [List.foldl_cons, ih, Table.find?_modify, List.map_cons]
      by_cases hn : n = c.wire
      · -- A connection that is in the queue twice is dropped twice.
        subst hn
        rw [if_pos rfl, if_pos List.mem_cons_self]
        split
        · cases wires.find? c.wire <;> rfl
        · rfl
      · rw [if_neg hn]
        simp only [List.mem_cons, hn, false_or]

theorem closeInlet_of_none {j : Nat} (hj : m.inlets.find? j = none) : m.closeInlet j = m := by
  unfold closeInlet
  rw [hj]

/-- What is in the queue is dropped, one connection after the other. -/
theorem closeInlet_of_some {j : Nat} {inlet : Inlet} (hj : m.inlets.find? j = some inlet) :
    m.closeInlet j =
      { m with
        inlets := m.inlets.put j { inlet with queue := [], isServed := false }
        wires := dropAll inlet.queue m.wires } := by
  have hdrops : ∀ (cs : List Connection) (m₀ : Manager σ),
      cs.foldl (fun m c => m.onWire c.wire Wire.drop) m₀ =
        { m₀ with wires := dropAll cs m₀.wires } := by
    intro cs
    induction cs with
    | nil => exact fun _ => rfl
    | cons c rest ih => exact fun m₀ => ih _
  unfold closeInlet
  rw [hj]
  exact hdrops _ _

theorem keeps_closeInlet (m : Manager σ) (j : Nat) : m.Keeps (m.closeInlet j) := by
  cases hj : m.inlets.find? j with
  | none =>
      rw [closeInlet_of_none hj]
      exact .refl m
  | some inlet =>
      have hput := keeps_putInlet m j { inlet with queue := [], isServed := false } (.inl rfl)
      rw [closeInlet_of_some hj]
      refine ⟨rfl, rfl, rfl, ?_, ?_, hput.numbers, hput.queues, id⟩
      · intro n
        rw [find?_dropAll]
        split
        · exact .inr rfl
        · exact .inl rfl
      · intro n hn
        rw [find?_dropAll]
        exact if_neg fun hin => hn ⟨j, inlet, hj, hin⟩

theorem keeps_finishInlet (m : Manager σ) (j : Nat) (spec : ListenSpec) :
    m.Keeps (m.finishInlet j spec) :=
  (keeps_closeInlet m j).trans (keeps_report _ _)

/-- A row that is found from the end is one of the rows. -/
theorem mem_of_find?_reverse {rows : List (Nat × Inlet)} {p : Nat × Inlet → Bool}
    {row : Nat × Inlet} (h : rows.reverse.find? p = some row) : row ∈ rows :=
  List.mem_reverse.mp (List.mem_of_find?_eq_some h)

theorem keeps_endInlet (hn : m.inlets.numbers.Nodup) (spec : String) :
    m.Keeps (m.endInlet spec).2 := by
  unfold endInlet
  split
  · exact .refl m
  · next j inlet hj =>
      have hf := Table.find?_of_mem hn (mem_of_find?_reverse hj)
      exact keeps_putInlet m j _ (.inr ⟨inlet, hf, rfl⟩)

theorem keeps_addListener (m : Manager σ) (spec : ListenSpec) (bound : Endpoint) :
    m.Keeps (m.addListener spec bound) := by
  have hput := keeps_putInlet m m.nextInlet { spec } (.inl rfl)
  exact hput.trans (.of_same rfl rfl rfl rfl rfl id)

theorem keeps_listen (T : Transport σ) (m : Manager σ) (spec : ListenSpec) :
    m.Keeps (m.listen T spec).2 := by
  unfold listen
  split
  · exact .refl m
  · split
    · exact .refl m
    · dsimp only
      split
      · exact keeps_asked m _ _
      · exact (keeps_asked m _ _).trans (keeps_addListener _ _ _)

theorem keeps_unlisten (m : Manager σ) (spec : ListenSpec) :
    m.Keeps (m.unlisten spec).2 := by
  unfold unlisten
  split
  · exact .refl m
  · next listener hl =>
      dsimp only
      have hfilter : m.Keeps { m with listeners := m.listeners.filter (·.spec ≠ spec) } :=
        .of_same rfl rfl rfl rfl rfl id
      exact hfilter.trans ((keeps_closeInlet _ _).trans (keeps_report _ _))

theorem keeps_unlistenAll (specs : List ListenSpec) (m : Manager σ) :
    m.Keeps (m.unlistenAll specs) := by
  unfold unlistenAll
  induction specs generalizing m with
  | nil => exact .refl m
  | cons spec rest ih => exact (keeps_unlisten m spec).trans (ih _)

theorem keeps_listenAll (T : Transport σ) (specs : List ListenSpec) (m : Manager σ) :
    m.Keeps (m.listenAll T specs).2 := by
  induction specs generalizing m with
  | nil => exact .refl m
  | cons spec rest ih =>
      have hl := keeps_listen T m spec
      unfold listenAll
      split
      · next hm =>
          rw [hm] at hl
          exact hl.trans (ih _)
      · next hm =>
          rw [hm] at hl
          exact (hl.trans (keeps_report _ _)).trans (ih _)

/-! ## §3. Settings and the stop. -/

/-- What a new configuration makes of the listeners. -/
theorem reconfigure_of_ok (T : Transport σ) (m : Manager σ) {config : LinkConfig}
    {settings : Settings} (hs : config.settings = .ok settings) :
    (m.reconfigure T config).2 =
      (((unlistenAll { m with settings }
        ((m.listeners.map (·.spec)).filter (· ∉ settings.listen))).listenAll T
        (settings.listen.filter (· ∉ m.listeners.map (·.spec)))).2) := by
  unfold reconfigure
  rw [hs]
  -- The first error is the result; it does not matter to the manager.
  dsimp only
  split
  · next hm => rw [hm]
  · next hm => rw [hm]

/-- **A new configuration leaves the links alone.** -/
theorem keeps_reconfigure (T : Transport σ) (m : Manager σ) (config : LinkConfig) :
    m.Keeps (m.reconfigure T config).2 := by
  cases hs : config.settings with
  | error e =>
      unfold reconfigure
      rw [hs]
      exact .refl m
  | ok settings =>
      -- Listeners that are not wanted any more go first, then new ones come.
      have hset : m.Keeps { m with settings } := .of_same rfl rfl rfl rfl rfl id
      rw [reconfigure_of_ok T m hs]
      exact (hset.trans (keeps_unlistenAll _ _)).trans (keeps_listenAll T _ _)

theorem keeps_raiseStop (m : Manager σ) : m.Keeps m.raiseStop :=
  .of_same rfl rfl rfl rfl rfl fun _ => rfl

theorem keeps_dropListeners (m : Manager σ) : m.Keeps m.dropListeners := by
  have hfold : ∀ (ls : List Listener) (m₀ : Manager σ),
      m₀.Keeps (ls.foldl (fun m listener => m.closeInlet listener.inlet) m₀) := by
    intro ls
    induction ls with
    | nil => exact Keeps.refl
    | cons l rest ih =>
        intro m₀
        exact (keeps_closeInlet m₀ l.inlet).trans (ih _)
  have hnone : m.Keeps { m with listeners := [] } := .of_same rfl rfl rfl rfl rfl id
  exact hnone.trans (hfold _ _)

theorem keeps_stopTransport (T : Transport σ) (m : Manager σ) :
    m.Keeps (m.stopTransport T).2 := by
  unfold stopTransport
  dsimp only
  split
  · exact keeps_asked m _ _
  · exact (keeps_asked m _ _).trans (keeps_report _ _)

/-- **The stop leaves the links alone.** -/
theorem keeps_stop (T : Transport σ) (m : Manager σ) : m.Keeps (m.stop T).2 := by
  unfold stop
  split
  · exact .refl m
  · exact ((keeps_raiseStop m).trans (keeps_dropListeners _)).trans (keeps_stopTransport T _)

end LinkLayer.Manager

/-
  LinkLayer.Proofs.Manager.Inlets
  ───────────────────────────────
  **LISTENERS AND THEIR QUEUES.**

  A queue that is served belongs to a listener that is in force; a queue that
  is not served any more is empty.  Whatever a manager is asked to do keeps it
  so.

    • `Orderly.listen`, `Orderly.reconfigure` — listeners that are started
      have places and queues of their own,
    • `Staffed` — what holds of the queues at any time,
    • `Staffed.unserved` — where no listener is left, nothing is served,
    • `Sheds` — a connection that loses its place in a queue without being
      taken has lost its wire,
    • `find?_reconfigure` — a queue whose listener is wanted still is left as
      it is.
-/
import LinkLayer.Proofs.Manager.Reconcile

namespace LinkLayer

/-- A queue that is served no more. -/
def Inlet.shut (inlet : Inlet) : Inlet := { inlet with queue := [], isServed := false }

namespace Manager

variable {σ : Type} {m m' m'' : Manager σ}

/-! ## §1. Listeners stay in order. -/

theorem Orderly.listen (ho : m.Orderly) (T : Transport σ) (spec : ListenSpec) :
    (m.listen T spec).2.Orderly := by
  unfold Manager.listen
  split
  · exact ho
  · split
    · exact ho
    · next hl =>
        dsimp only
        split
        · exact ho.asked _ _
        · exact (ho.asked _ _).addListener (listenerAt_eq_none.mp hl) _

theorem Orderly.listenAll (ho : m.Orderly) (T : Transport σ) (specs : List ListenSpec) :
    (m.listenAll T specs).2.Orderly := by
  induction specs generalizing m with
  | nil => exact ho
  | cons spec rest ih =>
      have hl := ho.listen T spec
      unfold Manager.listenAll
      split
      · next hm =>
          rw [hm] at hl
          exact ih hl
      · next hm =>
          rw [hm] at hl
          exact ih (hl.of_settled ⟨.refl _, rfl, rfl⟩)

theorem Orderly.reconfigure (ho : m.Orderly) (T : Transport σ) (config : LinkConfig) :
    (m.reconfigure T config).2.Orderly := by
  cases hc : config.settings with
  | error e =>
      unfold Manager.reconfigure
      rw [hc]
      exact ho
  | ok settings =>
      have ho₀ : Orderly { m with settings } := ho.of_settled ⟨.refl _, rfl, rfl⟩
      rw [reconfigure_of_ok T m hc]
      exact (ho₀.of_settled (ends_unlistenAll _ ho₀).settled).listenAll T _

/-! ## §2. The queues. -/

/-- What is served belongs to a listener in force, and what is not served holds
nothing. -/
structure Staffed (m : Manager σ) : Prop where
  empty : ∀ j inlet, m.inlets.find? j = some inlet → inlet.isServed = false → inlet.queue = []
  staff : ∀ j inlet, m.inlets.find? j = some inlet → inlet.isServed = true →
    ∃ l ∈ m.listeners, l.inlet = j

/-- Where no listener is left, nothing is served. -/
theorem Staffed.unserved (h : m.Staffed) (hl : m.listeners = []) {j : Nat} {inlet : Inlet}
    (hj : m.inlets.find? j = some inlet) : inlet.isServed = false := by
  by_contra hs
  rw [Bool.not_eq_false] at hs
  obtain ⟨l, hmem, -⟩ := h.staff j inlet hj hs
  rw [hl] at hmem
  cases hmem

/-- It is enough that queues and listeners are the same. -/
theorem Staffed.of_same (h : m.Staffed) (hi : m'.inlets = m.inlets)
    (hl : m'.listeners = m.listeners) : m'.Staffed where
  empty := fun j inlet hj => h.empty j inlet (hi ▸ hj)
  staff := fun j inlet hj hs => hl ▸ h.staff j inlet (hi ▸ hj) hs

/-- One queue is replaced, and the listeners of all others stay. -/
theorem Staffed.of_put (h : m.Staffed) {j : Nat} {inlet : Inlet}
    (hempty : inlet.isServed = false → inlet.queue = [])
    (hi : m'.inlets = m.inlets.put j inlet)
    (hstaff : inlet.isServed = true → ∃ l ∈ m'.listeners, l.inlet = j)
    (hl : ∀ l ∈ m.listeners, l.inlet ≠ j → l ∈ m'.listeners) : m'.Staffed where
  empty := by
    intro k inlet' hk
    rw [hi, Table.find?_put] at hk
    split at hk
    · cases hk
      exact hempty
    · exact h.empty k inlet' hk
  staff := by
    intro k inlet' hk hs
    rw [hi, Table.find?_put] at hk
    split at hk
    · next hkj =>
        cases hk
        exact hkj ▸ hstaff hs
    · next hkj =>
        obtain ⟨l, hmem, rfl⟩ := h.staff k inlet' hk hs
        exact ⟨l, hl l hmem hkj, rfl⟩

/-! ## §3. Whatever is asked of a manager keeps them. -/

/-- What a closed queue and all others are. -/
theorem find?_closeInlet (m : Manager σ) (j k : Nat) :
    (m.closeInlet j).inlets.find? k =
      if k = j then (m.inlets.find? k).map Inlet.shut else m.inlets.find? k := by
  by_cases hk : k = j
  · subst hk
    rw [if_pos rfl]
    cases hj : m.inlets.find? k with
    | none => rw [closeInlet_of_none hj, hj, Option.map_none]
    | some inlet =>
        rw [closeInlet_of_some hj]
        exact Table.find?_put_self _ _ _
  · rw [if_neg hk]
    exact find?_closeInlet_ne m hk

theorem listeners_closeInlet (m : Manager σ) (j : Nat) :
    (m.closeInlet j).listeners = m.listeners := by
  cases hj : m.inlets.find? j with
  | none => rw [closeInlet_of_none hj]
  | some inlet => rw [closeInlet_of_some hj]

/-- A queue is closed, and the listeners of all others stay. -/
theorem Staffed.closeInlet (h : m.Staffed) (j : Nat) {listeners : List Listener}
    (hl : ∀ l ∈ m.listeners, l.inlet ≠ j → l ∈ listeners) :
    (Manager.closeInlet { m with listeners } j).Staffed := by
  have hfind : ∀ k, (Manager.closeInlet { m with listeners } j).inlets.find? k =
      if k = j then (m.inlets.find? k).map Inlet.shut else m.inlets.find? k :=
    find?_closeInlet { m with listeners } j
  constructor
  · intro k inlet hk
    rw [hfind] at hk
    split at hk
    · obtain ⟨inlet₀, -, rfl⟩ := Option.map_eq_some_iff.mp hk
      exact fun _ => rfl
    · exact h.empty k inlet hk
  · intro k inlet hk hs
    rw [hfind] at hk
    split at hk
    · obtain ⟨inlet₀, -, rfl⟩ := Option.map_eq_some_iff.mp hk
      cases hs
    · next hkj =>
        obtain ⟨l, hmem, rfl⟩ := h.staff k inlet hk hs
        rw [listeners_closeInlet]
        exact ⟨l, hl l hmem hkj, rfl⟩

theorem Staffed.report (h : m.Staffed) (notices : List Notice) : (m.report notices).Staffed :=
  h.of_same rfl rfl

/-- A new listener serves a queue of its own. -/
theorem Staffed.addListener (h : m.Staffed) (spec : ListenSpec) (bound : Endpoint) :
    (m.addListener spec bound).Staffed := by
  refine h.of_put (fun _ => rfl) rfl ?_ fun l hl _ => List.mem_append_left _ hl
  intro _
  exact ⟨⟨spec, bound, m.nextInlet⟩, List.mem_append_right _ (List.mem_singleton.mpr rfl), rfl⟩

theorem Staffed.listen (h : m.Staffed) (T : Transport σ) (spec : ListenSpec) :
    (m.listen T spec).2.Staffed := by
  unfold Manager.listen
  split
  · exact h
  · split
    · exact h
    · dsimp only
      have hasked : (m.asked (.listen spec) (T.listen spec m.transport)).Staffed :=
        h.of_same rfl rfl
      split
      · exact hasked
      · exact hasked.addListener _ _

theorem Staffed.listenAll (h : m.Staffed) (T : Transport σ) (specs : List ListenSpec) :
    (m.listenAll T specs).2.Staffed := by
  induction specs generalizing m with
  | nil => exact h
  | cons spec rest ih =>
      have hl := h.listen T spec
      unfold Manager.listenAll
      split
      · next hm =>
          rw [hm] at hl
          exact ih hl
      · next hm =>
          rw [hm] at hl
          exact ih (hl.report _)

theorem Staffed.unlisten (h : m.Staffed) (ho : m.Orderly) (spec : ListenSpec) :
    (m.unlisten spec).2.Staffed := by
  unfold Manager.unlisten
  split
  · exact h
  · next listener hl =>
      obtain ⟨hmem, hspec⟩ := mem_of_listenerAt hl
      refine (h.closeInlet _ fun l hl hne => ?_).report _
      -- Whoever goes with the listener is the listener.
      refine List.mem_filter.mpr ⟨hl, decide_eq_true fun hs => hne ?_⟩
      rw [ho.eq_of_spec hl hmem (hs.trans hspec.symm)]

theorem Staffed.unlistenAll (h : m.Staffed) (ho : m.Orderly) (specs : List ListenSpec) :
    (m.unlistenAll specs).Staffed := by
  induction specs generalizing m with
  | nil => exact h
  | cons spec rest ih =>
      exact ih (h.unlisten ho spec) (ho.of_settled (settled_unlisten m spec))

theorem Staffed.reconfigure (h : m.Staffed) (ho : m.Orderly) (T : Transport σ)
    (config : LinkConfig) : (m.reconfigure T config).2.Staffed := by
  cases hc : config.settings with
  | error e =>
      unfold Manager.reconfigure
      rw [hc]
      exact h
  | ok settings =>
      have h₀ : Staffed { m with settings } := h.of_same rfl rfl
      have ho₀ : Orderly { m with settings } := ho.of_settled ⟨.refl _, rfl, rfl⟩
      rw [reconfigure_of_ok T m hc]
      exact (h₀.unlistenAll ho₀ _).listenAll T _

/-- All queues of some listeners are closed. -/
theorem find?_closeInlets (ls : List Listener) (m : Manager σ) (k : Nat) :
    (ls.foldl (fun m listener => m.closeInlet listener.inlet) m).inlets.find? k =
      if k ∈ ls.map (·.inlet) then (m.inlets.find? k).map Inlet.shut
      else m.inlets.find? k := by
  induction ls generalizing m with
  | nil => rfl
  | cons l rest ih =>
      rw [List.foldl_cons, ih, find?_closeInlet, List.map_cons]
      by_cases hk : k = l.inlet
      · -- A queue that is closed twice is a queue that is closed.
        subst hk
        rw [if_pos rfl, if_pos List.mem_cons_self]
        split
        · cases m.inlets.find? l.inlet <;> rfl
        · rfl
      · rw [if_neg hk]
        simp only [List.mem_cons, hk, false_or]

/-- What the queues are when all listeners were dropped. -/
theorem find?_dropListeners (m : Manager σ) (k : Nat) :
    m.dropListeners.inlets.find? k =
      if k ∈ m.listeners.map (·.inlet) then (m.inlets.find? k).map Inlet.shut
      else m.inlets.find? k :=
  find?_closeInlets m.listeners _ k

theorem listeners_closeInlets (ls : List Listener) (m : Manager σ) :
    (ls.foldl (fun m listener => m.closeInlet listener.inlet) m).listeners = m.listeners := by
  induction ls generalizing m with
  | nil => rfl
  | cons l rest ih => rw [List.foldl_cons, ih, listeners_closeInlet]

theorem listeners_dropListeners (m : Manager σ) : m.dropListeners.listeners = [] :=
  listeners_closeInlets m.listeners _

theorem Staffed.dropListeners (h : m.Staffed) : m.dropListeners.Staffed where
  empty := by
    intro k inlet hk
    rw [find?_dropListeners] at hk
    split at hk
    · obtain ⟨inlet₀, -, rfl⟩ := Option.map_eq_some_iff.mp hk
      exact fun _ => rfl
    · exact h.empty k inlet hk
  staff := by
    intro k inlet hk hs
    rw [find?_dropListeners] at hk
    split at hk
    · obtain ⟨inlet₀, -, rfl⟩ := Option.map_eq_some_iff.mp hk
      cases hs
    · next hnot =>
        -- What is served belongs to a listener, and so was closed.
        obtain ⟨l, hmem, rfl⟩ := h.staff k inlet hk hs
        exact absurd (List.mem_map.mpr ⟨l, hmem, rfl⟩) hnot

theorem Staffed.stopTransport (h : m.Staffed) (T : Transport σ) :
    (m.stopTransport T).2.Staffed := by
  unfold Manager.stopTransport
  dsimp only
  split <;> exact h.of_same rfl rfl

theorem Staffed.stop (h : m.Staffed) (T : Transport σ) : (m.stop T).2.Staffed := by
  unfold Manager.stop
  split
  · exact h
  · have hraised : m.raiseStop.Staffed := h.of_same rfl rfl
    exact hraised.dropListeners.stopTransport T

theorem Staffed.endInlet (h : m.Staffed) (hn : m.inlets.numbers.Nodup) (spec : String) :
    (m.endInlet spec).2.Staffed := by
  unfold Manager.endInlet
  split
  · exact h
  · next j inlet hj =>
      have hfind := Table.find?_of_mem hn (mem_of_find?_reverse hj)
      let unfed : Inlet := { inlet with isFed := false }
      have hempty : unfed.isServed = false → unfed.queue = [] := h.empty j inlet hfind
      exact h.of_put hempty rfl (h.staff j inlet hfind) fun _ hl _ => hl

/-! ## §4. What waits in a queue. -/

/-- Every queue is what it was, or was closed, and all that waited in it was
dropped. -/
structure Sheds (m m' : Manager σ) : Prop where
  keeps : m.Keeps m'
  queues : ∀ j inlet, m.inlets.find? j = some inlet → m'.inlets.find? j = some inlet ∨
    m'.inlets.find? j = some inlet.shut ∧ ∀ c ∈ inlet.queue,
      m'.wires.find? c.wire = (m.wires.find? c.wire).map Wire.drop

theorem Sheds.refl (m : Manager σ) : m.Sheds m := ⟨.refl m, fun _ _ hj => .inl hj⟩

theorem Sheds.trans (h : m.Sheds m') (h' : m'.Sheds m'') : m.Sheds m'' where
  keeps := h.keeps.trans h'.keeps
  queues := by
    intro j inlet hj
    have htwice : ∀ o : Option Wire, (o.map Wire.drop).map Wire.drop = o.map Wire.drop := by
      intro o
      cases o <;> rfl
    rcases h.queues j inlet hj with hsame | ⟨hshut, hdrops⟩
    · rcases h'.queues j inlet hsame with hsame' | ⟨hshut', hdrops'⟩
      · exact .inl hsame'
      · refine .inr ⟨hshut', fun c hc => ?_⟩
        rw [hdrops' c hc]
        rcases h.keeps.wires c.wire with hwire | hwire <;> rw [hwire]
        exact htwice _
    · -- What is closed stays closed, and what is dropped stays dropped.
      refine .inr ⟨?_, fun c hc => ?_⟩
      · rcases h'.queues j inlet.shut hshut with hsame' | ⟨hshut', -⟩
        · exact hsame'
        · exact hshut'
      · rcases h'.keeps.wires c.wire with hwire | hwire <;> rw [hwire, hdrops c hc]
        exact htwice _

/-- It is enough that queues and wires are the same. -/
theorem Sheds.of_keeps (h : m.Keeps m') (hi : m'.inlets = m.inlets) : m.Sheds m' :=
  ⟨h, fun _ _ hj => .inl (hi ▸ hj)⟩

theorem sheds_closeInlet (m : Manager σ) (j : Nat) : m.Sheds (m.closeInlet j) where
  keeps := keeps_closeInlet m j
  queues := by
    intro k inlet hk
    rw [find?_closeInlet]
    split
    · next hkj =>
        subst hkj
        rw [hk]
        refine .inr ⟨rfl, fun c hc => ?_⟩
        rw [closeInlet_of_some hk]
        exact (find?_dropAll _ _ _).trans (if_pos (List.mem_map.mpr ⟨c, hc, rfl⟩))
    · exact .inl hk

theorem sheds_closeInlets (ls : List Listener) (m : Manager σ) :
    m.Sheds (ls.foldl (fun m listener => m.closeInlet listener.inlet) m) := by
  induction ls generalizing m with
  | nil => exact .refl m
  | cons l rest ih => exact (sheds_closeInlet m l.inlet).trans (ih _)

theorem sheds_dropListeners (m : Manager σ) : m.Sheds m.dropListeners := by
  have hnone : m.Sheds { m with listeners := [] } :=
    .of_keeps (.of_same rfl rfl rfl rfl rfl id) rfl
  exact hnone.trans (sheds_closeInlets _ _)

theorem sheds_unlisten (m : Manager σ) (spec : ListenSpec) : m.Sheds (m.unlisten spec).2 := by
  unfold unlisten
  split
  · exact .refl m
  · next listener _ =>
      have hfilter : m.Sheds { m with listeners := m.listeners.filter (·.spec ≠ spec) } :=
        .of_keeps (.of_same rfl rfl rfl rfl rfl id) rfl
      exact hfilter.trans ((sheds_closeInlet _ _).trans (.of_keeps (keeps_report _ _) rfl))

theorem sheds_unlistenAll (specs : List ListenSpec) (m : Manager σ) :
    m.Sheds (m.unlistenAll specs) := by
  unfold unlistenAll
  induction specs generalizing m with
  | nil => exact .refl m
  | cons spec rest ih => exact (sheds_unlisten m spec).trans (ih _)

/-- A new listener has a queue of its own. -/
theorem find?_listen (ho : m.Orderly) (T : Transport σ) (spec : ListenSpec) {j : Nat}
    {inlet : Inlet} (hj : m.inlets.find? j = some inlet) :
    (m.listen T spec).2.inlets.find? j = some inlet := by
  unfold Manager.listen
  split
  · exact hj
  · split
    · exact hj
    · dsimp only
      split
      · exact hj
      · refine (Table.find?_put_ne _ _ ?_).trans hj
        rintro rfl
        exact Nat.lt_irrefl _ (ho.numbers _ (Table.mem_numbers_of_find? hj))

theorem find?_listenAll (ho : m.Orderly) (T : Transport σ) (specs : List ListenSpec) {j : Nat}
    {inlet : Inlet} (hj : m.inlets.find? j = some inlet) :
    (m.listenAll T specs).2.inlets.find? j = some inlet := by
  induction specs generalizing m with
  | nil => exact hj
  | cons spec rest ih =>
      have hl := find?_listen ho T spec hj
      have ho₁ := ho.listen T spec
      unfold Manager.listenAll
      split
      · next hm =>
          rw [hm] at hl ho₁
          exact ih ho₁ hl
      · next hm =>
          rw [hm] at hl ho₁
          exact ih (ho₁.of_settled ⟨.refl _, rfl, rfl⟩) hl

/-- **A new configuration closes the queues of listeners that are not wanted,
and no others.** -/
theorem sheds_reconfigure (ho : m.Orderly) (T : Transport σ) (config : LinkConfig) :
    m.Sheds (m.reconfigure T config).2 := by
  cases hc : config.settings with
  | error e =>
      unfold Manager.reconfigure
      rw [hc]
      exact .refl m
  | ok settings =>
      let m₁ : Manager σ := { m with settings }
      let m₂ := m₁.unlistenAll ((m.listeners.map (·.spec)).filter (· ∉ settings.listen))
      have ho₁ : m₁.Orderly := ho.of_settled ⟨.refl _, rfl, rfl⟩
      have ho₂ : m₂.Orderly := ho₁.of_settled (settled_unlistenAll _ _)
      have hset : m.Sheds m₁ := .of_keeps (.of_same rfl rfl rfl rfl rfl id) rfl
      rw [reconfigure_of_ok T m hc]
      exact (hset.trans (sheds_unlistenAll _ _)).trans
        ⟨keeps_listenAll T _ m₂, fun _ _ hj => .inl (find?_listenAll ho₂ T _ hj)⟩

/-- A listener that is wanted still keeps its queue. -/
theorem find?_reconfigure (ho : m.Orderly) (T : Transport σ) {config : LinkConfig}
    {settings : Settings} (hc : config.settings = .ok settings) {j : Nat} {inlet : Inlet}
    (hj : m.inlets.find? j = some inlet)
    (hwanted : ∀ l ∈ m.listeners, l.inlet = j → l.spec ∈ settings.listen) :
    (m.reconfigure T config).2.inlets.find? j = some inlet := by
  let m₁ : Manager σ := { m with settings }
  have ho₁ : m₁.Orderly := ho.of_settled ⟨.refl _, rfl, rfl⟩
  have hends := ends_unlistenAll (m := m₁)
    ((m.listeners.map (·.spec)).filter (· ∉ settings.listen)) ho₁
  have hj₂ := hends.others j fun l hl hgone hlj => by
    have hnot := (List.mem_filter.mp hgone).2
    exact absurd (hwanted l hl hlj) (of_decide_eq_true hnot)
  rw [reconfigure_of_ok T m hc]
  exact find?_listenAll (ho₁.of_settled hends.settled) T _ (hj₂.trans hj)

theorem inlets_stopTransport (T : Transport σ) (m : Manager σ) :
    (m.stopTransport T).2.inlets = m.inlets := by
  unfold stopTransport
  dsimp only
  split <;> rfl

theorem sheds_stop (T : Transport σ) (m : Manager σ) : m.Sheds (m.stop T).2 := by
  have htransport : ∀ m : Manager σ, m.Sheds (m.stopTransport T).2 :=
    fun m => .of_keeps (keeps_stopTransport T m) (inlets_stopTransport T m)
  have hraise : m.Sheds m.raiseStop := .of_keeps (keeps_raiseStop m) rfl
  unfold stop
  split
  · exact .refl m
  · exact (hraise.trans (sheds_dropListeners _)).trans (htransport _)

end Manager

end LinkLayer

/-
  LinkLayer.Proofs.Manager.Alike
  ──────────────────────────────
  **TWO MANAGERS THAT DIFFER IN ONE CONNECTION.**

  `AlikeBut n m m'` says that all that the links of a node share is the same
  in both managers, that they listen at the same places, and that their
  queues and wires are the same but for the connection with the number `n`.
  The logs may differ, and so may the tasks.

  Listening, ending a listener, a new configuration and the stop keep two
  managers alike: they never look at a single connection.  Their results are
  the same on both sides, and so is what becomes of a delivery.
-/
import LinkLayer.Proofs.Manager.Keeping

namespace LinkLayer

/-! ## §1. Tables, one row at a time. -/

namespace Table

variable {α β : Type}

/-- Let a function act on all things of a table. -/
def map (f : α → β) (t : Table α) : Table β := ⟨t.rows.map fun row => (row.1, f row.2)⟩

theorem find?_map (f : α → β) (t : Table α) (n : Nat) :
    (t.map f).find? n = (t.find? n).map f := by
  simp only [find?, map, List.find?_map, Option.map_map]
  rfl

theorem map_put (f : α → β) (t : Table α) (n : Nat) (a : α) :
    (t.put n a).map f = (t.map f).put n (f a) := by
  obtain ⟨rows⟩ := t
  simp only [put, map]
  congr 1
  induction rows with
  | nil => rfl
  | cons row rest ih =>
      by_cases h : row.1 = n
      · simp [putRows, h]
      · simp [putRows, h, ih]

end Table

/-- An inlet without one connection. -/
def Inlet.without (n : Nat) (inlet : Inlet) : Inlet :=
  { inlet with queue := inlet.queue.filter (·.wire ≠ n) }

/-- Two inlets are the same but for one connection. -/
theorem Inlet.without_eq_iff {n : Nat} {inlet inlet' : Inlet} :
    inlet'.without n = inlet.without n ↔ inlet'.spec = inlet.spec ∧
      inlet'.queue.filter (·.wire ≠ n) = inlet.queue.filter (·.wire ≠ n) ∧
      inlet'.isFed = inlet.isFed ∧ inlet'.isServed = inlet.isServed := by
  simp only [Inlet.without, Inlet.mk.injEq]

namespace Manager

variable {σ : Type} {n : Nat} {m m' : Manager σ}

/-! ## §2. Alike managers. -/

/-- Two managers differ in one connection at most, apart from their tasks and
their logs. -/
structure AlikeBut (n : Nat) (m m' : Manager σ) : Prop where
  node : m'.toNode = m.toNode
  transport : m'.transport = m.transport
  listeners : m'.listeners = m.listeners
  inlets : m'.inlets.map (Inlet.without n) = m.inlets.map (Inlet.without n)
  wires : ∀ k, k ≠ n → m'.wires.find? k = m.wires.find? k

namespace AlikeBut

theorem refl (n : Nat) (m : Manager σ) : AlikeBut n m m := ⟨rfl, rfl, rfl, rfl, fun _ _ => rfl⟩

theorem symm (h : AlikeBut n m m') : AlikeBut n m' m :=
  ⟨h.node.symm, h.transport.symm, h.listeners.symm, h.inlets.symm,
    fun k hk => (h.wires k hk).symm⟩

theorem trans {m'' : Manager σ} (h : AlikeBut n m m') (h' : AlikeBut n m' m'') :
    AlikeBut n m m'' :=
  ⟨h'.node.trans h.node, h'.transport.trans h.transport, h'.listeners.trans h.listeners,
    h'.inlets.trans h.inlets, fun k hk => (h'.wires k hk).trans (h.wires k hk)⟩

theorem isStopped (h : AlikeBut n m m') : m'.isStopped = m.isStopped :=
  congrArg Node.isStopped h.node

/-- The inlets with a number are the same but for the connection. -/
theorem find?_inlet (h : AlikeBut n m m') (j : Nat) :
    (m'.inlets.find? j).map (Inlet.without n) = (m.inlets.find? j).map (Inlet.without n) := by
  rw [← Table.find?_map, ← Table.find?_map, h.inlets]

/-- So are the inlets that were opened last for a place, and their numbers. -/
theorem findLast (h : AlikeBut n m m') (spec : String) :
    (m'.inlets.rows.reverse.find? (·.2.spec.text = spec)).map
        (fun row => (row.1, row.2.without n)) =
      (m.inlets.rows.reverse.find? (·.2.spec.text = spec)).map
        (fun row => (row.1, row.2.without n)) := by
  -- The place of an inlet has nothing to do with its queue.
  have hfind : ∀ rows : List (Nat × Inlet),
      (rows.reverse.find? (·.2.spec.text = spec)).map (fun row => (row.1, row.2.without n)) =
        ((rows.map fun row => (row.1, row.2.without n)).reverse.find?
          (·.2.spec.text = spec)) := by
    intro rows
    rw [← List.map_reverse, List.find?_map]
    rfl
  rw [hfind, hfind]
  exact congrArg (fun t : Table Inlet => t.rows.reverse.find? (·.2.spec.text = spec)) h.inlets

/-! ## §3. Small changes. -/

/-- Nothing but tasks and logs is changed, on either side. -/
theorem of_same {m₁ m₁' : Manager σ} (h : AlikeBut n m m') (hnode : m₁.toNode = m.toNode)
    (htransport : m₁.transport = m.transport) (hlisteners : m₁.listeners = m.listeners)
    (hinlets : m₁.inlets = m.inlets) (hwires : m₁.wires = m.wires)
    (hnode' : m₁'.toNode = m'.toNode) (htransport' : m₁'.transport = m'.transport)
    (hlisteners' : m₁'.listeners = m'.listeners) (hinlets' : m₁'.inlets = m'.inlets)
    (hwires' : m₁'.wires = m'.wires) : AlikeBut n m₁ m₁' where
  node := by rw [hnode, hnode', h.node]
  transport := by rw [htransport, htransport', h.transport]
  listeners := by rw [hlisteners, hlisteners', h.listeners]
  inlets := by rw [hinlets, hinlets', h.inlets]
  wires := by rw [hwires, hwires']; exact h.wires

theorem report (h : AlikeBut n m m') (notices notices' : List Notice) :
    AlikeBut n (m.report notices) (m'.report notices') :=
  h.of_same rfl rfl rfl rfl rfl rfl rfl rfl rfl rfl

theorem asked {α : Type} (h : AlikeBut n m m') (request : Request) (reply : Reply σ α) :
    AlikeBut n (m.asked request reply) (m'.asked request reply) :=
  ⟨h.node, rfl, h.listeners, h.inlets, h.wires⟩

/-- What is shared is changed on both sides in the same way. -/
theorem onNode (h : AlikeBut n m m') (f : Node → Node) :
    AlikeBut n { m with toNode := f m.toNode } { m' with toNode := f m'.toNode } :=
  ⟨congrArg f h.node, h.transport, h.listeners, h.inlets, h.wires⟩

theorem onListeners (h : AlikeBut n m m') (f : List Listener → List Listener) :
    AlikeBut n { m with listeners := f m.listeners } { m' with listeners := f m'.listeners } :=
  ⟨h.node, h.transport, congrArg f h.listeners, h.inlets, h.wires⟩

theorem putInlet (h : AlikeBut n m m') (j : Nat) {inlet inlet' : Inlet}
    (hi : inlet'.without n = inlet.without n) :
    AlikeBut n { m with inlets := m.inlets.put j inlet }
      { m' with inlets := m'.inlets.put j inlet' } where
  node := h.node
  transport := h.transport
  listeners := h.listeners
  inlets := by
    show (m'.inlets.put j inlet').map _ = (m.inlets.put j inlet).map _
    rw [Table.map_put, Table.map_put, h.inlets, hi]
  wires := h.wires

/-- A wire is changed on both sides, or the one that may differ is. -/
theorem onWire (h : AlikeBut n m m') (k : Nat) (f : Wire → Wire) :
    AlikeBut n (m.onWire k f) (m'.onWire k f) where
  node := h.node
  transport := h.transport
  listeners := h.listeners
  inlets := h.inlets
  wires := by
    intro i hi
    show (m'.wires.modify k f).find? i = (m.wires.modify k f).find? i
    rw [Table.find?_modify, Table.find?_modify, h.wires i hi]

/-- The wire that may differ is changed on one side alone. -/
theorem onWire_left (h : AlikeBut n m m') (f : Wire → Wire) :
    AlikeBut n (m.onWire n f) m' where
  node := h.node
  transport := h.transport
  listeners := h.listeners
  inlets := h.inlets
  wires := by
    intro i hi
    show _ = (m.wires.modify n f).find? i
    rw [Table.find?_modify, if_neg hi, h.wires i hi]

/-! ## §4. Inlets and listeners. -/

/-- A queue without one connection drops the same wires, but for that one. -/
theorem mem_queue_iff {inlet inlet' : Inlet} (hi : inlet'.without n = inlet.without n) {k : Nat}
    (hk : k ≠ n) : k ∈ inlet'.queue.map (·.wire) ↔ k ∈ inlet.queue.map (·.wire) := by
  have hin : ∀ queue : List Connection, k ∈ queue.map (·.wire) ↔
      k ∈ (queue.filter (·.wire ≠ n)).map (·.wire) := by
    intro queue
    simp only [List.mem_map, List.mem_filter, decide_eq_true_eq]
    constructor
    · rintro ⟨c, hc, rfl⟩
      exact ⟨c, ⟨hc, hk⟩, rfl⟩
    · rintro ⟨c, ⟨hc, -⟩, rfl⟩
      exact ⟨c, hc, rfl⟩
  rw [hin inlet'.queue, hin inlet.queue, (Inlet.without_eq_iff.mp hi).2.1]

theorem closeInlet (h : AlikeBut n m m') (j : Nat) :
    AlikeBut n (m.closeInlet j) (m'.closeInlet j) := by
  have hfind := h.find?_inlet j
  cases hj : m.inlets.find? j with
  | none =>
      rw [hj, Option.map_none, Option.map_eq_none_iff] at hfind
      rw [closeInlet_of_none hj, closeInlet_of_none hfind]
      exact h
  | some inlet =>
      rw [hj] at hfind
      obtain ⟨inlet', hj', hi⟩ := Option.map_eq_some_iff.mp hfind
      rw [closeInlet_of_some hj, closeInlet_of_some hj']
      -- Both queues are empty now, and what is left of the inlets is the same.
      obtain ⟨hspec, -, hfed, -⟩ := Inlet.without_eq_iff.mp hi
      have hempty : Inlet.without n { inlet' with queue := [], isServed := false } =
          Inlet.without n { inlet with queue := [], isServed := false } :=
        Inlet.without_eq_iff.mpr ⟨hspec, rfl, hfed, rfl⟩
      refine ⟨h.node, h.transport, h.listeners, (h.putInlet j hempty).inlets, ?_⟩
      intro k hk
      rw [find?_dropAll, find?_dropAll, h.wires k hk]
      simp only [mem_queue_iff hi hk]

theorem finishInlet (h : AlikeBut n m m') (j : Nat) (spec : ListenSpec) :
    AlikeBut n (m.finishInlet j spec) (m'.finishInlet j spec) :=
  (h.closeInlet j).report _ _

theorem endInlet (h : AlikeBut n m m') (spec : String) :
    AlikeBut n (m.endInlet spec).2 (m'.endInlet spec).2 := by
  have hfind := h.findLast spec
  unfold Manager.endInlet
  cases hj : m.inlets.rows.reverse.find? (·.2.spec.text = spec) with
  | none =>
      rw [hj, Option.map_none, Option.map_eq_none_iff] at hfind
      rw [hfind]
      exact h
  | some row =>
      rw [hj] at hfind
      obtain ⟨⟨j', inlet'⟩, hj', hrow⟩ := Option.map_eq_some_iff.mp hfind
      obtain ⟨j, inlet⟩ := row
      obtain ⟨rfl, hi⟩ := Prod.mk.inj hrow
      rw [hj']
      obtain ⟨hspec, hqueue, -, hserved⟩ := Inlet.without_eq_iff.mp hi
      exact h.putInlet j' (Inlet.without_eq_iff.mpr ⟨hspec, hqueue, rfl, hserved⟩)

/-- A delivery comes to the same end on both sides: how many wait is not looked
at. -/
theorem deliver (h : AlikeBut n m m') (spec : String) (c : Connection) :
    (m'.deliver spec c).1 = (m.deliver spec c).1 := by
  have hfind := h.findLast spec
  unfold Manager.deliver
  cases hj : m.inlets.rows.reverse.find? (·.2.spec.text = spec) with
  | none =>
      rw [hj, Option.map_none, Option.map_eq_none_iff] at hfind
      rw [hfind]
  | some row =>
      rw [hj] at hfind
      obtain ⟨⟨j', inlet'⟩, hj', hrow⟩ := Option.map_eq_some_iff.mp hfind
      obtain ⟨j, inlet⟩ := row
      obtain ⟨-, -, hfed, hserved⟩ := Inlet.without_eq_iff.mp (Prod.mk.inj hrow).2
      rw [hj']
      dsimp only
      rw [hfed, hserved]
      split
      · rfl
      · split <;> rfl

theorem nextInlet (h : AlikeBut n m m') : m'.nextInlet = m.nextInlet := by
  have hlength := congrArg (fun t : Table Inlet => t.rows.length) h.inlets
  simp only [Table.map, List.length_map] at hlength
  exact hlength

theorem addListener (h : AlikeBut n m m') (spec : ListenSpec) (bound : Endpoint) :
    AlikeBut n (m.addListener spec bound) (m'.addListener spec bound) := by
  have hopen := h.putInlet m.nextInlet (Eq.refl (Inlet.without n { spec }))
  have hput := hopen.onListeners (· ++ [⟨spec, bound, m.nextInlet⟩])
  unfold Manager.addListener
  rw [h.nextInlet]
  exact hput

theorem listenerAt (h : AlikeBut n m m') (spec : ListenSpec) :
    m'.listenerAt spec = m.listenerAt spec := by
  unfold Manager.listenerAt
  rw [h.listeners]

theorem listen (T : Transport σ) (h : AlikeBut n m m') (spec : ListenSpec) :
    (m'.listen T spec).1 = (m.listen T spec).1 ∧
      AlikeBut n (m.listen T spec).2 (m'.listen T spec).2 := by
  unfold Manager.listen
  rw [h.isStopped, h.listenerAt, h.transport]
  split
  · exact ⟨rfl, h⟩
  · split
    · exact ⟨rfl, h⟩
    · have hasked := h.asked (.listen spec) (T.listen spec m.transport)
      dsimp only
      split
      · exact ⟨rfl, hasked⟩
      · exact ⟨rfl, hasked.addListener _ _⟩

theorem unlisten (h : AlikeBut n m m') (spec : ListenSpec) :
    AlikeBut n (m.unlisten spec).2 (m'.unlisten spec).2 := by
  unfold Manager.unlisten
  rw [h.listenerAt]
  split
  · exact h
  · next listener hl =>
      exact ((h.onListeners (·.filter (·.spec ≠ spec))).closeInlet listener.inlet).report _ _

theorem unlistenAll (specs : List ListenSpec) {m m' : Manager σ} (h : AlikeBut n m m') :
    AlikeBut n (m.unlistenAll specs) (m'.unlistenAll specs) := by
  unfold Manager.unlistenAll
  induction specs generalizing m m' with
  | nil => exact h
  | cons spec rest ih => exact ih (h.unlisten spec)

theorem listenAll (T : Transport σ) (specs : List ListenSpec) {m m' : Manager σ}
    (h : AlikeBut n m m') :
    (m'.listenAll T specs).1 = (m.listenAll T specs).1 ∧
      AlikeBut n (m.listenAll T specs).2 (m'.listenAll T specs).2 := by
  induction specs generalizing m m' with
  | nil => exact ⟨rfl, h⟩
  | cons spec rest ih =>
      obtain ⟨hresult, hlisten⟩ := h.listen T spec
      unfold Manager.listenAll
      rw [show m'.listen T spec = ((m.listen T spec).1, (m'.listen T spec).2) from
        Prod.ext hresult rfl]
      cases hr : m.listen T spec with
      | mk result m₁ =>
          rw [hr] at hlisten
          cases result with
          | ok bound => exact ih hlisten
          | error e =>
              obtain ⟨herrors, hrest⟩ := ih (hlisten.report [.listenerFailed spec e]
                [.listenerFailed spec e])
              exact ⟨congrArg (e :: ·) herrors, hrest⟩

/-! ## §5. Settings and the stop. -/

theorem reconfigure (T : Transport σ) (h : AlikeBut n m m') (config : LinkConfig) :
    AlikeBut n (m.reconfigure T config).2 (m'.reconfigure T config).2 := by
  cases hs : config.settings with
  | error e =>
      unfold Manager.reconfigure
      rw [hs]
      exact h
  | ok settings =>
      have hspecs : m'.listeners.map (·.spec) = m.listeners.map (·.spec) := by
        rw [h.listeners]
      rw [reconfigure_of_ok T m hs, reconfigure_of_ok T m' hs, hspecs]
      have hset := h.onNode fun node => { node with settings }
      exact ((hset.unlistenAll _).listenAll T _).2

theorem raiseStop (h : AlikeBut n m m') : AlikeBut n m.raiseStop m'.raiseStop :=
  h.onNode fun node => { node with isStopped := true }

theorem dropListeners (h : AlikeBut n m m') : AlikeBut n m.dropListeners m'.dropListeners := by
  have hfold : ∀ (ls : List Listener) {m m' : Manager σ}, AlikeBut n m m' →
      AlikeBut n (ls.foldl (fun m listener => m.closeInlet listener.inlet) m)
        (ls.foldl (fun m listener => m.closeInlet listener.inlet) m') := by
    intro ls
    induction ls with
    | nil => exact id
    | cons l rest ih => exact fun h => ih (h.closeInlet l.inlet)
  unfold Manager.dropListeners
  rw [h.listeners]
  exact hfold _ (h.onListeners fun _ => [])

theorem stopTransport (T : Transport σ) (h : AlikeBut n m m') :
    AlikeBut n (m.stopTransport T).2 (m'.stopTransport T).2 := by
  have hasked := h.asked .stop (T.stop m.transport)
  unfold Manager.stopTransport
  rw [h.transport]
  dsimp only
  split
  · exact hasked
  · exact hasked.report _ _

theorem stop (T : Transport σ) (h : AlikeBut n m m') :
    AlikeBut n (m.stop T).2 (m'.stop T).2 := by
  unfold Manager.stop
  rw [h.isStopped]
  split
  · exact h
  · exact h.raiseStop.dropListeners.stopTransport T

end AlikeBut

end Manager

end LinkLayer

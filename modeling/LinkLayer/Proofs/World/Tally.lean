/-
  LinkLayer.Proofs.World.Tally
  ────────────────────────────
  **TWO WORLDS THAT DIFFER IN ONE CONNECTION.**

  `Tally n w w'` says that two worlds are the same but for the connection with
  the number `n`: they have the same registry, settings, clock and listeners,
  all other connections are in the same hands and have the same wires, and
  all tasks but the one that has connection `n` are at the same point.  Of the
  record, all that is about other connections is the same, in the same order.

  `Foreign n w a` says that an act is not about that connection.  Such an act
  keeps the tally (`Tally.foreign`): no handler, no listener and no request of
  others looks at a connection that is not its own.  Nor do others notice what a
  task does with the connection, as long as it leaves the registry alone
  (`Deals.own`).
-/
import LinkLayer.Proofs.Manager.Alike
import LinkLayer.Proofs.World.Dealing

namespace LinkLayer

/-! ## §1. Wires and tasks of managers that are alike. -/

namespace Manager.AlikeBut

variable {σ : Type} {n : Nat} {m m' : Manager σ}

theorem putWire (h : AlikeBut n m m') (k : Nat) (wire : Wire) :
    AlikeBut n { m with wires := m.wires.put k wire } { m' with wires := m'.wires.put k wire } where
  node := h.node
  transport := h.transport
  listeners := h.listeners
  inlets := h.inlets
  wires := by
    intro i hi
    show (m'.wires.put k wire).find? i = (m.wires.put k wire).find? i
    rw [Table.find?_put, Table.find?_put, h.wires i hi]

/-- Tasks are put to work. -/
theorem spawn (h : AlikeBut n m m') (t t' : Nat) (origin origin' : Origin)
    (activity activity' : Activity) :
    AlikeBut n (m.spawn t origin activity) (m'.spawn t' origin' activity') :=
  h.of_same rfl rfl rfl rfl rfl rfl rfl rfl rfl rfl

/-- Tasks end. -/
theorem conclude (h : AlikeBut n m m') (t : Nat) (origin : Origin) (outcome : Outcome) :
    AlikeBut n (m.conclude t origin outcome) (m'.conclude t origin outcome) :=
  (h.spawn _ _ _ _ _ _).report _ _

/-- A handler makes the same move on both sides. -/
theorem applyMove (h : AlikeBut n m m') (t : Nat) (origin : Origin) (k : Nat)
    (move : Handler.Move) :
    AlikeBut n (m.applyMove t origin k move) (m'.applyMove t origin k move) := by
  have hwire := (h.onNode fun node => { node with registry := move.registry }).putWire k move.wire
  exact hwire.of_same rfl rfl rfl rfl rfl rfl rfl rfl rfl rfl

theorem startCall (h : AlikeBut n m m') (t : Nat) (origin : Origin) (target : CallTarget) :
    AlikeBut n (m.startCall t origin target) (m'.startCall t origin target) := by
  unfold Manager.startCall
  rw [h.isStopped, show m'.settings = m.settings from congrArg Node.settings h.node]
  split
  · exact h.conclude t origin _
  · exact h.spawn _ _ _ _ _ _

/-- The handler of the connection makes a move that is not about the
registry. -/
theorem applyMove_own {t : Nat} {origin : Origin} {move : Handler.Move}
    (hreg : move.registry = m.registry) : AlikeBut n (m.applyMove t origin n move) m where
  node := by
    show m.toNode = { m.toNode with registry := move.registry }
    rw [hreg]
  transport := rfl
  listeners := rfl
  inlets := rfl
  wires := fun _ hk => (Table.find?_put_ne _ _ hk).symm

end Manager.AlikeBut

namespace World

variable {σ : Type} {T : Transport σ} {me : Identity} {w w' w₁ : World σ} {a : Act σ} {n t : Nat}

/-! ## §2. Tallies. -/

/-- Two worlds differ in one connection at most. -/
structure Tally (n : Nat) (w w' : World σ) : Prop where
  manager : Manager.AlikeBut n w.manager w'.manager
  next : w'.next = w.next
  connection : w'.connection = w.connection
  place : ∀ k, k ≠ n → w'.place k = w.place k
  deeds : w'.deeds.filter (·.1 ≠ n) = w.deeds.filter (·.1 ≠ n)
  tasks : ∀ t, w.place n ≠ .taken t → w'.manager.tasks.find? t = w.manager.tasks.find? t

namespace Tally

theorem refl (n : Nat) (w : World σ) : Tally n w w :=
  ⟨.refl n _, rfl, rfl, fun _ _ => rfl, rfl, fun _ _ => rfl⟩

theorem symm (h : Tally n w w') (hp : w'.place n = w.place n) : Tally n w' w where
  manager := h.manager.symm
  next := h.next.symm
  connection := h.connection.symm
  place := fun k hk => (h.place k hk).symm
  deeds := h.deeds.symm
  tasks := fun t ht => (h.tasks t (hp ▸ ht)).symm

/-- One of two worlds goes on, and differs from what it was in the same
connection. -/
theorem after (h : Tally n w w') (h₁ : Tally n w₁ w)
    (hp : ∀ t, w.place n = .taken t → w₁.place n = .taken t) : Tally n w₁ w' where
  manager := h₁.manager.trans h.manager
  next := h.next.trans h₁.next
  connection := h.connection.trans h₁.connection
  place := fun k hk => (h.place k hk).trans (h₁.place k hk)
  deeds := h.deeds.trans h₁.deeds
  tasks := by
    intro t ht
    rw [h.tasks t fun htaken => ht (hp t htaken), h₁.tasks t ht]

theorem toNode (h : Tally n w w') : w'.manager.toNode = w.manager.toNode := h.manager.node

theorem wire? (h : Tally n w w') {k : Nat} (hk : k ≠ n) : w'.wire? k = w.wire? k :=
  h.manager.wires k hk

/-- Only the managers change, and both in the same way. -/
theorem onManager (h : Tally n w w') {m m' : Manager σ} (hm : Manager.AlikeBut n m m')
    (htasks : ∀ t, w.place n ≠ .taken t → m'.tasks.find? t = m.tasks.find? t) :
    Tally n { w with manager := m } { w' with manager := m' } :=
  ⟨hm, h.next, h.connection, h.place, h.deeds, htasks⟩

/-- The same, if no task is touched. -/
theorem keep (h : Tally n w w') {m m' : Manager σ} (hm : Manager.AlikeBut n m m')
    (hk : w.manager.Keeps m) (hk' : w'.manager.Keeps m') :
    Tally n { w with manager := m } { w' with manager := m' } := by
  refine h.onManager hm ?_
  intro t ht
  rw [hk.tasks, hk'.tasks]
  exact h.tasks t ht

/-- Tasks are replaced on both sides by the same one. -/
theorem tasks_put (h : Tally n w w') (t : Nat) (task : Task) (s : Nat)
    (hs : w.place n ≠ .taken s) :
    (w'.manager.tasks.put t task).find? s = (w.manager.tasks.put t task).find? s := by
  rw [Table.find?_put, Table.find?_put, h.tasks s hs]

/-- A task is put to work on both sides, under the next number. -/
theorem spawn (h : Tally n w w') (origin : Origin) (activity : Activity) :
    Tally n (w.spawn fun m => m.spawn w.next origin activity)
      (w'.spawn fun m => m.spawn w'.next origin activity) where
  manager := h.manager.spawn _ _ _ _ _ _
  next := congrArg (· + 1) h.next
  connection := h.connection
  place := h.place
  deeds := h.deeds
  tasks := by
    intro s hs
    show (w'.manager.tasks.put w'.next _).find? s = (w.manager.tasks.put w.next _).find? s
    rw [h.next]
    exact h.tasks_put w.next _ s hs

/-- Another connection changes hands. -/
theorem give (h : Tally n w w') {k : Nat} (hk : k ≠ n) (place : Place) :
    Tally n (w.give k place) (w'.give k place) where
  manager := h.manager
  next := h.next
  connection := h.connection
  place := by
    intro i hi
    show Function.update w'.place k place i = Function.update w.place k place i
    by_cases hik : i = k
    · subst hik
      rw [Function.update_self, Function.update_self]
    · rw [Function.update_of_ne hik, Function.update_of_ne hik, h.place i hi]
  deeds := h.deeds
  tasks := by
    intro t ht
    refine h.tasks t ?_
    have hupdate : (w.give k place).place n = w.place n := Function.update_of_ne hk.symm _ _
    rw [hupdate] at ht
    exact ht

/-- The same is put on record on both sides. -/
theorem withDeeds (h : Tally n w w') (more : List (Nat × Deed)) :
    Tally n { w with deeds := w.deeds ++ more } { w' with deeds := w'.deeds ++ more } where
  manager := h.manager
  next := h.next
  connection := h.connection
  place := h.place
  deeds := by
    show (w'.deeds ++ more).filter _ = (w.deeds ++ more).filter _
    rw [List.filter_append, List.filter_append, h.deeds]
  tasks := h.tasks

/-- The record of another connection. -/
theorem deedsOf (h : Tally n w w') {k : Nat} (hk : k ≠ n) : w'.deedsOf k = w.deedsOf k := by
  -- What is about `k` is found among what is not about `n`.
  have hfilter : ∀ ds : List (Nat × Deed),
      ds.filterMap (fun d => if d.1 = k then some d.2 else none) =
        (ds.filter (·.1 ≠ n)).filterMap (fun d => if d.1 = k then some d.2 else none) := by
    intro ds
    induction ds with
    | nil => rfl
    | cons d rest ih =>
        by_cases hd : d.1 = n
        · have hdk : ¬ d.1 = k := fun he => hk (he.symm.trans hd)
          simpa [hd, hdk, List.filterMap_cons, Ne.symm hk] using ih
        · simp [hd, List.filterMap_cons, ih]
  unfold World.deedsOf
  rw [hfilter w'.deeds, hfilter w.deeds, h.deeds]

/-- A loose connection is loose on both sides. -/
theorem withLoose (h : Tally n w w') {k : Nat} (hk : k ≠ n) {f f' : Connection → World σ}
    (hf : ∀ c, w.place k = .loose → w.connection k = some c → Tally n (f c) (f' c)) :
    Tally n (w.withLoose k f) (w'.withLoose k f') := by
  unfold World.withLoose
  rw [h.place k hk, h.connection]
  split
  · next c hp hc => exact hf c hp hc
  · exact h

/-- The task of another connection is at the same point. -/
theorem handler? (h : Tally n w w') (ht : w.place n ≠ .taken t) : w'.handler? t = w.handler? t := by
  unfold World.handler?
  rw [h.tasks t ht]

end Tally

/-! ## §3. Acts that are not about a connection. -/

/-- An act is not about a connection: it neither uses it, nor is it the act of
the task that has it, nor does it give it to a task. -/
def Foreign (T : Transport σ) (n : Nat) (w : World σ) : Act σ → Prop
  | .discard k | .run k .. | .accept k _ | .deliver _ k | .remote k _ => k ≠ n
  | .inlet j => ∀ c ∈ w.popped? j, c.wire ≠ n
  | .serve j => ∀ c ∈ (w.flag false).popped? j, c.wire ≠ n
  | .task t => w.place n ≠ .taken t ∧ ∀ c ∈ w.dialled? T t, c.wire ≠ n
  | .tunnel t _ | .cancel t => w.place n ≠ .taken t
  | _ => True

/-! ## §4. Acts of listeners and callers. -/

namespace Tally

/-- One wire is dropped on both sides. -/
theorem dropWire (h : Tally n w w') (k : Nat) :
    Tally n (w.onManager (·.onWire k Wire.drop)) (w'.onManager (·.onWire k Wire.drop)) :=
  h.onManager (h.manager.onWire k Wire.drop) h.tasks

/-- A connection is delivered to the same end on both sides. -/
theorem deliver (h : Tally n w w') (spec : String) {c : Connection} (hc : c.wire ≠ n) :
    Tally n (w.deliver spec c) (w'.deliver spec c) := by
  have hv := h.manager.deliver spec c
  rcases deliver_cases w spec c with ⟨hd, he⟩ | ⟨hd, he⟩ | ⟨j, inlet, hj, -, hd, he⟩
  · rcases deliver_cases w' spec c with ⟨-, he'⟩ | ⟨hd', -⟩ | ⟨_, _, -, -, hd', -⟩
    · rw [he, he']
      exact h
    · cases hd'.symm.trans (hv.trans hd)
    · cases hd'.symm.trans (hv.trans hd)
  · rcases deliver_cases w' spec c with ⟨hd', -⟩ | ⟨-, he'⟩ | ⟨_, _, -, -, hd', -⟩
    · cases hd'.symm.trans (hv.trans hd)
    · rw [he, he']
      exact (h.dropWire c.wire).give hc _
    · cases hd'.symm.trans (hv.trans hd)
  · rcases deliver_cases w' spec c with ⟨hd', -⟩ | ⟨hd', -⟩ | ⟨j', inlet', hj', -, -, he'⟩
    · cases hd'.symm.trans (hv.trans hd)
    · cases hd'.symm.trans (hv.trans hd)
    · -- The connection joins the same queue on both sides.
      have hfind := h.manager.findLast spec
      rw [hj, hj'] at hfind
      obtain ⟨rfl, hi⟩ := Prod.mk.inj (Option.some.inj hfind)
      obtain ⟨hspec, hqueue, hfed, hserved⟩ := Inlet.without_eq_iff.mp hi
      rw [he, he']
      refine Tally.give (h.onManager (h.manager.putInlet j' ?_) h.tasks) hc _
      refine Inlet.without_eq_iff.mpr ⟨hspec, ?_, hfed, hserved⟩
      show (inlet'.queue ++ [c]).filter _ = (inlet.queue ++ [c]).filter _
      rw [List.filter_append, List.filter_append, hqueue]

/-- A listener makes the same move on both sides. -/
theorem inletMove (h : Tally n w w') (hn : ¬ w'.manager.Queued n) (j : Nat)
    (hpop : ∀ c ∈ w.popped? j, c.wire ≠ n) :
    Tally n (w.inletMove j) (w'.inletMove j) := by
  have hfind := h.manager.find?_inlet j
  cases hj : w.manager.inlets.find? j with
  | none =>
      rw [hj, Option.map_none, Option.map_eq_none_iff] at hfind
      simp only [World.inletMove, Manager.stepInlet, hj, hfind]
      exact h
  | some inlet =>
      rw [hj] at hfind
      obtain ⟨inlet', hj', hi⟩ := Option.map_eq_some_iff.mp hfind
      obtain ⟨hspec, hqueue, hfed, hserved⟩ := Inlet.without_eq_iff.mp hi
      have hstopped := h.manager.isStopped
      have hfinish := h.keep (h.manager.finishInlet j inlet.spec)
        (Manager.keeps_finishInlet w.manager j inlet.spec)
        (Manager.keeps_finishInlet w'.manager j inlet.spec)
      -- The connection that may differ does not wait on the second side.
      have hqueue' : inlet'.queue = inlet.queue.filter (·.wire ≠ n) := by
        rw [← hqueue, List.filter_eq_self.mpr]
        intro c hc
        refine decide_eq_true fun he => hn ⟨j, inlet', hj', ?_⟩
        exact List.mem_map.mpr ⟨c, hc, he⟩
      simp only [World.inletMove, Manager.stepInlet, popped?, hj, hj', hserved, hstopped, hspec,
        hfed, hqueue', Option.bind_some] at hpop ⊢
      cases hs : inlet.isServed with
      | false => simpa using h
      | true =>
          cases hst : w.manager.isStopped with
          | true => simpa using hfinish
          | false =>
              cases hq : inlet.queue with
              | nil =>
                  cases hf : inlet.isFed with
                  | false => simpa using hfinish
                  | true => simpa using h
              | cons c rest =>
                  -- The head of the queue is seen, so it is the head on both sides.
                  simp only [hs, hst, hq, List.head?_cons] at hpop
                  have hc : c.wire ≠ n := hpop c rfl
                  have hrest : Inlet.without n { inlet' with queue := rest.filter (·.wire ≠ n) } =
                      Inlet.without n { inlet with queue := rest } :=
                    Inlet.without_eq_iff.mpr ⟨hspec, by simp, hfed, hserved⟩
                  have hput := h.manager.putInlet j hrest
                  have hspawn := h.onManager (hput.spawn c.wire c.wire (.inbound c.name)
                    (.inbound c.name) (.handling (Manager.handlerFor c true false {}))
                    (.handling (Manager.handlerFor c true false {})))
                    (h.tasks_put c.wire _)
                  simpa [hc, hspec, hfed, hserved, hs] using hspawn.give hc (.taken c.wire)

/-- The same for the flag of the stop. -/
theorem flag (h : Tally n w w') (isStopped : Bool) :
    Tally n (w.flag isStopped) (w'.flag isStopped) :=
  h.onManager (h.manager.onNode fun node => { node with isStopped }) h.tasks

/-- A listener that does not look at the stop makes the same move, too. -/
theorem serve (h : Tally n w w') (hn : ¬ w'.manager.Queued n) (j : Nat)
    (hpop : ∀ c ∈ (w.flag false).popped? j, c.wire ≠ n) :
    Tally n (w.serve j) (w'.serve j) := by
  have hmove := ((h.flag false).inletMove hn j hpop).flag w.manager.isStopped
  have hstopped := h.manager.isStopped
  unfold World.serve
  rw [hstopped]
  exact hmove

/-- A call begins on both sides. -/
theorem call (h : Tally n w w') (uri : String) (source : Option String) :
    Tally n (w.call uri source) (w'.call uri source) := by
  unfold World.call Manager.call
  cases CallTarget.parse uri source with
  | error e => exact h
  | ok target =>
      simp only [h.manager.isStopped]
      split
      · next hm =>
          split at hm
          · cases hm
          · cases hm
            rw [if_neg ‹_›]
            exact h.spawn _ _
      · next hm =>
          split at hm
          · rw [if_pos ‹_›]
            exact h
          · cases hm

/-! ## §5. Acts of tasks. -/

/-- A handler of another connection makes the same move on both sides. -/
theorem applyMove (h : Tally n w w') (t : Nat) (origin : Origin) (k : Nat) (move : Handler.Move)
    (ds : List Deed) :
    Tally n
      { w with manager := w.manager.applyMove t origin k move, deeds := w.deeds ++ ds.map (k, ·) }
      { w' with
        manager := w'.manager.applyMove t origin k move, deeds := w'.deeds ++ ds.map (k, ·) } :=
  (h.onManager (h.manager.applyMove t origin k move) (h.tasks_put t _)).withDeeds _

/-- A task ends on both sides. -/
theorem conclude (h : Tally n w w') (t : Nat) (origin : Origin) (outcome : Outcome) :
    Tally n (w.onManager (·.conclude t origin outcome))
      (w'.onManager (·.conclude t origin outcome)) :=
  h.onManager (h.manager.conclude t origin outcome) (h.tasks_put t _)

/-- A task that has another connection, or none, is at the same point on both
sides. -/
theorem find?_task (h : Tally n w w') (ht : w.place n ≠ .taken t) {task : Task}
    (hf : w.manager.tasks.find? t = some task) : w'.manager.tasks.find? t = some task :=
  (h.tasks t ht).trans hf

/-- A task calls on both sides. -/
theorem startCall (h : Tally n w w') (t : Nat) (origin : Origin) (target : CallTarget) :
    Tally n (w.onManager (·.startCall t origin target))
      (w'.onManager (·.startCall t origin target)) := by
  refine h.onManager (h.manager.startCall t origin target) ?_
  intro s hs
  show (w'.manager.startCall t origin target).tasks.find? s =
    (w.manager.startCall t origin target).tasks.find? s
  unfold Manager.startCall
  rw [h.manager.isStopped, show w'.manager.settings = w.manager.settings from
    congrArg Node.settings h.toNode]
  split
  · exact h.tasks_put t _ s hs
  · exact h.tasks_put t _ s hs

/-- A task dials on both sides, and gets the same connection. -/
theorem dial (T : Transport σ) (h : Tally n w w') {origin : Origin} {target : DialTarget}
    {options : LinkOptions} (ht : w.place n ≠ .taken t)
    (hf : w.manager.tasks.find? t = some ⟨origin, .dialling target options⟩)
    (hd : ∀ c ∈ w.dialled? T t, c.wire ≠ n) :
    Tally n (w.taskMove T t) (w'.taskMove T t) := by
  have hf' := h.find?_task ht hf
  have hasked := h.onManager
    (h.manager.asked (.dial target) (T.dial target w.manager.transport)) h.tasks
  simp only [taskMove, dialled?, Manager.stepTask, Manager.dial, hf, hf', Option.bind_some,
    h.manager.transport] at hd ⊢
  cases hr : (T.dial target w.manager.transport).result with
  | error e =>
      simp only [Except.toOption, newDeeds_of_none (w := w) (handler?_of_find? hf),
        newDeeds_of_none (w := w') (handler?_of_find? hf'), List.append_nil]
      exact hasked.conclude t origin _
  | ok c =>
      have hc : c.wire ≠ n := hd c (by rw [hr]; rfl)
      have hspawn := hasked.onManager
        (hasked.manager.spawn t t origin origin
          (.handling (Manager.handlerFor c false false options))
          (.handling (Manager.handlerFor c false false options)))
        (hasked.tasks_put t _)
      simp only [Except.toOption]
      refine h.withLoose hc ?_
      intro c' _ _
      split
      · exact hspawn.give hc (.taken t)
      · exact h

/-- **The task of another connection makes the same move on both sides.** -/
theorem task (T : Transport σ) (h : Tally n w w') (hw : w.Sound me)
    (ht : w.place n ≠ .taken t) (hd : ∀ c ∈ w.dialled? T t, c.wire ≠ n) :
    Tally n (w.act T (.task t)) (w'.act T (.task t)) := by
  cases hf : w.manager.tasks.find? t with
  | none =>
      have hf' := (h.tasks t ht).trans hf
      simp only [World.act, taskMove, Manager.stepTask, hf, hf']
      exact h
  | some task =>
      have hf' := h.find?_task ht hf
      obtain ⟨origin, activity⟩ := task
      cases activity with
      | calling target =>
          have hcall := h.startCall t origin target
          simpa [World.act, taskMove, Manager.stepTask, dialled?, hf, hf',
            newDeeds_of_none (w := w) (handler?_of_find? hf),
            newDeeds_of_none (w := w') (handler?_of_find? hf'), World.onManager] using hcall
      | dialling target options => exact h.dial T ht hf hd
      | done outcome =>
          simp only [World.act, taskMove, Manager.stepTask, hf, hf']
          exact h
      | handling handler =>
          have hh : w.handler? t = some handler := handler?_of_find? hf
          obtain ⟨_, wire, -, hwire, -, -⟩ := hw.tends hh
          have hn : handler.number ≠ n := fun hn => ht (hn ▸ hw.holders t handler hh)
          have hwire' := (h.wire? hn).trans hwire
          cases ho : handler.outcome? with
          | some outcome =>
              rw [act_task_of_outcome T hf ho, act_task_of_outcome T hf' ho]
              exact h.conclude t origin outcome
          | none =>
              cases hmove : handler.step w.manager.toNode wire with
              | none =>
                  rw [act_task_of_waits T hf hwire ho hmove,
                    act_task_of_waits T hf' hwire' ho (h.toNode ▸ hmove)]
                  exact h
              | some move =>
                  rw [act_task_eq T hf hwire ho hmove,
                    act_task_eq T hf' hwire' ho (h.toNode ▸ hmove), h.toNode]
                  exact h.applyMove t origin _ move _

/-- So does its engine. -/
theorem tunnel (T : Transport σ) (h : Tally n w w') (hw : w.Sound me)
    (ht : w.place n ≠ .taken t) (what : EngineAct) :
    Tally n (w.act T (.tunnel t what)) (w'.act T (.tunnel t what)) := by
  cases hh : w.handler? t with
  | none =>
      -- Without a handler there is no engine.
      have hnone : ∀ v : World σ, v.handler? t = none → v.act T (.tunnel t what) = v := by
        intro v hv
        show v.engineMove t what = v
        unfold engineMove
        split
        · next origin handler hf => cases (handler?_of_find? hf).symm.trans hv
        · rfl
      rw [hnone w hh, hnone w' ((h.handler? ht).trans hh)]
      exact h
  | some handler =>
      obtain ⟨_, wire, -, hwire, -, -⟩ := hw.tends hh
      have hn : handler.number ≠ n := fun hn => ht (hn ▸ hw.holders t handler hh)
      obtain ⟨origin, hf⟩ := find?_of_handler? hh
      rw [act_tunnel_eq T hf hwire, act_tunnel_eq T (h.find?_task ht hf) ((h.wire? hn).trans hwire),
        h.toNode]
      cases handler.phase with
      | tunnelling entry session =>
          dsimp only
          cases handler.afterEngine w.manager.toNode wire entry (what.progress session wire) with
          | none => exact h
          | some move =>
              have hmove := h.applyMove t origin handler.number move []
              simp only [List.map_nil, List.append_nil] at hmove
              exact hmove
      | _ => exact h

/-- A task that runs no handler is cancelled at once, unless it is done. -/
theorem cancel_idle (h : Tally n w w') (ht : w.place n ≠ .taken t) (hh : w.handler? t = none) :
    Tally n (w.onManager (·.cancel t)) (w'.onManager (·.cancel t)) := by
  have htask := h.tasks t ht
  show Tally n { w with manager := w.manager.cancel t } { w' with manager := w'.manager.cancel t }
  unfold Manager.cancel
  rw [htask]
  cases hf : w.manager.tasks.find? t with
  | none => exact h
  | some task =>
      obtain ⟨origin, activity⟩ := task
      cases activity with
      | handling handler => cases (handler?_of_find? hf).symm.trans hh
      | done outcome => exact h
      | calling target => exact h.conclude t origin .cancelled
      | dialling target options => exact h.conclude t origin .cancelled

/-- And so does whoever cancels it. -/
theorem cancel (T : Transport σ) (h : Tally n w w') (hw : w.Sound me)
    (ht : w.place n ≠ .taken t) : Tally n (w.act T (.cancel t)) (w'.act T (.cancel t)) := by
  cases hh : w.handler? t with
  | none =>
      have hact : ∀ v : World σ, v.handler? t = none →
          v.act T (.cancel t) = v.onManager (·.cancel t) := by
        intro v hv
        show v.cancel t = _
        rw [World.cancel, hv, Option.any_none, if_neg Bool.false_ne_true]
      rw [hact w hh, hact w' ((h.handler? ht).trans hh)]
      exact h.cancel_idle ht hh
  | some handler =>
      obtain ⟨_, wire, -, hwire, -, -⟩ := hw.tends hh
      have hn : handler.number ≠ n := fun hn => ht (hn ▸ hw.holders t handler hh)
      obtain ⟨origin, hf⟩ := find?_of_handler? hh
      rw [act_cancel_eq T hf hwire,
        act_cancel_eq T (h.find?_task ht hf) ((h.wire? hn).trans hwire)]
      split
      · exact h
      · have hmove := h.applyMove t origin handler.number
          (handler.cancel w.manager.toNode wire) []
        simp only [List.map_nil, List.append_nil] at hmove
        simp only [World.onManager, h.toNode]
        exact hmove.conclude t origin _

/-! ## §6. All acts of others. -/

/-- A connection is made on both sides. -/
theorem make (h : Tally n w w') (hw : w.Sound me) (kind : Kind) (name source remote : String)
    (capacity : Nat) (faults : Faults) :
    Tally n (w.make kind name source remote capacity faults)
      (w'.make kind name source remote capacity faults) where
  manager := by
    unfold World.make
    rw [h.next]
    exact h.manager.putWire w.next (Wire.new capacity faults)
  next := congrArg (· + 1) h.next
  connection := by
    unfold World.make
    rw [h.next, h.connection]
  place := by
    intro k hk
    show Function.update w'.place w'.next .loose k = Function.update w.place w.next .loose k
    rw [h.next]
    by_cases hkn : k = w.next
    · rw [hkn, Function.update_self, Function.update_self]
    · rw [Function.update_of_ne hkn, Function.update_of_ne hkn, h.place k hk]
  deeds := h.deeds
  tasks := by
    intro t ht
    refine h.tasks t fun hp => ht ?_
    -- A connection that is only made now is with no task yet.
    have hne : n ≠ w.next := by
      rintro rfl
      rw [(hw.fresh _ (Nat.le_refl _)).2] at hp
      cases hp
    exact (Function.update_of_ne hne _ _).trans hp

/-- **An act that is not about the connection in which two worlds differ does
the same to both.** -/
theorem foreign (T : Transport σ) (h : Tally n w w') (hw : w.Sound me) (hw' : w'.Sound me)
    (hq : ¬ w'.manager.Queued n) (ha : Foreign T n w a) :
    Tally n (w.act T a) (w'.act T a) := by
  cases a with
  | make kind name source remote capacity faults => exact h.make hw _ _ _ _ _ _
  | discard k => exact h.withLoose ha fun c _ _ => (h.dropWire k).give ha _
  | run k incoming forced options =>
      refine h.withLoose ha fun c _ _ => Tally.give (h.onManager ?_ ?_) ha _
      · exact h.manager.spawn _ _ _ _ _ _
      · exact h.tasks_put k _
  | accept k forced =>
      refine h.withLoose ha fun c _ hc => Tally.give (h.onManager ?_ ?_) ha _
      · exact h.manager.spawn _ _ _ _ _ _
      · exact h.tasks_put c.wire _
  | connect target => exact h.spawn _ _
  | call uri source => exact h.call uri source
  | deliver spec k =>
      refine h.withLoose ha fun c _ hc => h.deliver spec ?_
      rw [(hw.made k c hc).1]
      exact ha
  | endInlet spec =>
      exact h.keep (h.manager.endInlet spec) (Manager.keeps_endInlet hw.inlets spec)
        (Manager.keeps_endInlet hw'.inlets spec)
  | remote k what => exact h.onManager (h.manager.onWire k what.apply) h.tasks
  | clock now =>
      exact h.onManager (h.manager.onNode fun node => { node with now := max node.now now }) h.tasks
  | engine engine => exact h.onManager (h.manager.onNode fun node => { node with engine }) h.tasks
  | transport state =>
      exact h.onManager ⟨h.toNode, rfl, h.manager.listeners, h.manager.inlets, h.manager.wires⟩
        h.tasks
  | listen spec =>
      exact h.keep (h.manager.listen T spec).2 (Manager.keeps_listen T _ spec)
        (Manager.keeps_listen T _ spec)
  | unlisten spec =>
      exact h.keep (h.manager.unlisten spec) (Manager.keeps_unlisten _ spec)
        (Manager.keeps_unlisten _ spec)
  | reconfigure config =>
      exact h.keep (h.manager.reconfigure T config) (Manager.keeps_reconfigure T _ config)
        (Manager.keeps_reconfigure T _ config)
  | adopt settings =>
      exact h.onManager (h.manager.onNode fun node => { node with settings }) h.tasks
  | stop =>
      exact h.keep (h.manager.stop T) (Manager.keeps_stop T _) (Manager.keeps_stop T _)
  | raiseStop =>
      exact h.keep h.manager.raiseStop (Manager.keeps_raiseStop _) (Manager.keeps_raiseStop _)
  | dropListeners =>
      show Tally n (if w.manager.isStopped then _ else _) (if w'.manager.isStopped then _ else _)
      rw [h.manager.isStopped]
      split
      · exact h.keep h.manager.dropListeners (Manager.keeps_dropListeners _)
          (Manager.keeps_dropListeners _)
      · exact h
  | stopTransport =>
      show Tally n (if w.manager.isStopped then _ else _) (if w'.manager.isStopped then _ else _)
      rw [h.manager.isStopped]
      split
      · exact h.keep (h.manager.stopTransport T) (Manager.keeps_stopTransport T _)
          (Manager.keeps_stopTransport T _)
      · exact h
  | inlet j => exact h.inletMove hq j ha
  | serve j => exact h.serve hq j ha
  | task t => exact h.task T hw ha.1 ha.2
  | tunnel t what => exact h.tunnel T hw ha what
  | cancel t => exact h.cancel T hw ha

end Tally

/-! ## §7. Acts about one connection. -/

/-- What is done with a connection that a task has, and leaves the registry
alone, changes nothing for the others. -/
theorem Deals.own (hd : Deals w n t a w₁) (hp : w.place n = .taken t) (ha : Concerns n t a)
    (hreg : w₁.manager.registry = w.manager.registry) : Tally n w₁ w := by
  -- Of the tasks, only the one that has the connection changes.
  have htasks : ∀ (task : Task) (s : Nat), w.place n ≠ .taken s →
      w.manager.tasks.find? s = (w.manager.tasks.put t task).find? s := by
    intro task s hs
    refine (Table.find?_put_ne _ _ ?_).symm
    rintro rfl
    exact hs hp
  cases hd with
  | aside hna => exact absurd ha hna
  | remote what =>
      exact ⟨(Manager.AlikeBut.refl n w.manager).onWire_left what.apply, rfl, rfl,
        fun _ _ => rfl, rfl, fun _ _ => rfl⟩
  | rest => exact .refl n w
  | done => exact .refl n w
  | @move _ origin h wire move hf hn hwire hb =>
      refine ⟨Manager.AlikeBut.applyMove_own hreg, rfl, rfl, fun _ _ => rfl, ?_,
        htasks ⟨origin, .handling move.handler⟩⟩
      show w.deeds.filter _ = (w.deeds ++ _).filter _
      simp
  | @conclude origin h outcome hf hn ho =>
      exact ⟨(Manager.AlikeBut.refl n w.manager).of_same rfl rfl rfl rfl rfl rfl rfl rfl rfl rfl,
        rfl, rfl, fun _ _ => rfl, rfl, htasks ⟨origin, .done outcome⟩⟩
  | @cancel origin h wire hf hn hwire hbusy =>
      have hmove : Manager.AlikeBut n
          (w.manager.applyMove t origin n (h.cancel w.manager.toNode wire)) w.manager :=
        Manager.AlikeBut.applyMove_own hreg
      refine ⟨hmove.of_same rfl rfl rfl rfl rfl rfl rfl rfl rfl rfl, rfl, rfl, fun _ _ => rfl,
        rfl, ?_⟩
      intro s hs
      exact (htasks _ s hs).trans (congrArg (Table.find? · s) (Table.put_put _ _ _ _).symm)

end World

end LinkLayer

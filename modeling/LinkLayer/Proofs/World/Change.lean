/-
  LinkLayer.Proofs.World.Change
  ─────────────────────────────
  **WHAT AN ACT CAN MAKE OF A WORLD.**

  `Change` lists it once, in twelve cases: the first five leave the tasks
  alone, the next four give work to a task or end one that has no handler,
  and the last three are the moves of a handler, its end and its
  cancellation.

  `act_change` says that every act is a change of this list.  Whatever is to
  be shown of all acts is shown by going through the changes.
-/
import LinkLayer.Proofs.World.Sound

namespace LinkLayer

namespace World

variable {σ : Type}

/-! ## §1. Changes. -/

/-- A task is about to let the transport dial. -/
def Dials (w : World σ) (t : Nat) : Prop :=
  ∃ origin target options, w.manager.tasks.find? t = some ⟨origin, .dialling target options⟩

/-- What a task that has no handler can come to without one: on a node that is
not stopped a call goes on to dial, and else it is over. -/
inductive Idles (w : World σ) (t : Nat) : Act σ → Activity → Activity → Prop
  | dials {target : CallTarget} {dial : DialTarget} {options : LinkOptions} :
      w.manager.isStopped = false →
      Idles w t (.task t) (.calling target) (.dialling dial options)
  | refused {target : CallTarget} : w.manager.isStopped = true →
      Idles w t (.task t) (.calling target) (.done (.failed .stopped))
  | fails {target : DialTarget} {options : LinkOptions} {e : TransportError} :
      Idles w t (.task t) (.dialling target options) (.done (.failed (.transport e)))
  | cancelled {activity : Activity} : (∀ h, activity ≠ .handling h) →
      (∀ outcome, activity ≠ .done outcome) →
      Idles w t (.cancel t) activity (.done .cancelled)

/-- An act lets the handler of a task move: by its next move, or by what its
engine does. -/
def Moves (a : Act σ) (t : Nat) (h : Handler) : Prop :=
  a = .task t ∨
    (∃ what, a = .tunnel t what) ∧ ∃ entry session, h.phase = .tunnelling entry session

/-- What an act can make of a world. -/
inductive Change (w : World σ) : Act σ → World σ → Prop
  | keep {a : Act σ} {m : Manager σ} : w.manager.Keeps m →
      Change w a { w with manager := m }
  | remote (n : Nat) (what : RemoteAct) :
      Change w (.remote n what) (w.onManager (·.onWire n what.apply))
  | make (kind : Kind) (name source remote : String) (capacity : Nat) (faults : Faults) :
      Change w (.make kind name source remote capacity faults)
        (w.make kind name source remote capacity faults)
  | discard {a : Act σ} {c : Connection} : w.place c.wire = .loose →
      w.connection c.wire = some c →
      Change w a (give (w.onManager (·.onWire c.wire Wire.drop)) c.wire .discarded)
  | enqueue {a : Act σ} {c : Connection} {j : Nat} {inlet : Inlet} :
      w.place c.wire = .loose → w.connection c.wire = some c →
      w.manager.inlets.find? j = some inlet →
      Change w a
        (give (w.onManager fun m =>
          { m with inlets := m.inlets.put j { inlet with queue := inlet.queue ++ [c] } })
          c.wire (.queued j))
  | take {a : Act σ} {c : Connection} {t : Nat} {origin : Origin} {incoming forced : Bool}
      {options : LinkOptions} {m : Manager σ} : w.place c.wire = .loose →
      w.connection c.wire = some c → (∀ n, w.place n ≠ .taken t) → t < w.next →
      (t = c.wire ∨ w.connection t = none ∧ w.Dials t) →
      Manager.Like
        { w.manager with
          tasks := w.manager.tasks.put t
            ⟨origin, .handling (Manager.handlerFor c incoming forced options)⟩ } m →
      Change w a (give { w with manager := m } c.wire (.taken t))
  | pop {a : Act σ} {j : Nat} {inlet : Inlet} {c : Connection} {queue : List Connection} :
      a = .inlet j ∨ a = .serve j →
      w.manager.inlets.find? j = some inlet → inlet.queue = c :: queue →
      Change w a
        (give (w.onManager fun m =>
          Manager.spawn { m with inlets := m.inlets.put j { inlet with queue } } c.wire
            (.inbound c.name) (.handling (Manager.handlerFor c true false {})))
          c.wire (.taken c.wire))
  | spawn {a : Act σ} {origin : Origin} {target : CallTarget} :
      Change w a (w.spawn fun m => m.spawn w.next origin (.calling target))
  | idle {a : Act σ} {t : Nat} {origin : Origin} {activity activity' : Activity}
      {m : Manager σ} : Idles w t a activity activity' →
      w.manager.tasks.find? t = some ⟨origin, activity⟩ →
      Manager.Like { w.manager with tasks := w.manager.tasks.put t ⟨origin, activity'⟩ } m →
      Change w a { w with manager := m }
  | move {a : Act σ} {t : Nat} {origin : Origin} {h : Handler} {wire : Wire}
      {move : Handler.Move} : Moves a t h →
      w.manager.tasks.find? t = some ⟨origin, .handling h⟩ →
      w.wire? h.number = some wire → h.Turn w.manager.toNode wire move →
      Change w a
        { w with
          manager := w.manager.applyMove t origin h.number move
          deeds := w.deeds ++ (h.deeds w.manager.toNode move).map (h.number, ·) }
  | conclude {t : Nat} {origin : Origin} {h : Handler} {outcome : Outcome} :
      w.manager.tasks.find? t = some ⟨origin, .handling h⟩ → h.outcome? = some outcome →
      Change w (.task t) (w.onManager (·.conclude t origin outcome))
  | cancel {t : Nat} {origin : Origin} {h : Handler} {wire : Wire} :
      w.manager.tasks.find? t = some ⟨origin, .handling h⟩ →
      w.wire? h.number = some wire → h.isBusy = false →
      Change w (.cancel t)
        (w.onManager fun m =>
          (m.applyMove t origin h.number (h.cancel m.toNode wire)).conclude t origin
            ((h.cancel m.toNode wire).handler.outcome?.getD .cancelled))

variable {me : Identity} {w w' : World σ} {a : Act σ}

/-- An act that is impossible changes nothing. -/
theorem Change.same : Change w a w := .keep (.refl w.manager)

namespace Idles

variable {t : Nat} {origin : Origin} {activity activity' : Activity}

theorem act (h : Idles w t a activity activity') : a = .task t ∨ a = .cancel t := by
  cases h with
  | cancelled => exact .inr rfl
  | _ => exact .inl rfl

/-- Whoever has no handler has no connection. -/
theorem not_attends (h : Idles w t a activity activity') (fired : List Nat) (c : Connection)
    (wire : Wire) (ds : List Deed) : ¬ Attends me fired c wire ds activity := by
  cases h with
  | cancelled hh ho =>
      cases activity with
      | handling h => exact absurd rfl (hh h)
      | done outcome => exact absurd rfl (ho outcome)
      | _ => exact id
  | _ => exact id

theorem handler? (h : Idles w t a activity activity') :
    Task.handler? ⟨origin, activity'⟩ = none := by
  cases h <;> rfl

end Idles

/-! ## §2. Every act is a change. -/

/-- What is done with a loose connection is done, or nothing is. -/
theorem withLoose_cases (w : World σ) (n : Nat) (f : Connection → World σ) :
    w.withLoose n f = w ∨
      ∃ c, w.place n = .loose ∧ w.connection n = some c ∧ w.withLoose n f = f c := by
  unfold withLoose
  split
  · next c hp hc => exact .inr ⟨c, hp, hc, rfl⟩
  · exact .inl rfl

/-- A change that is made of a loose connection. -/
theorem withLoose_change (hw : w.Sound me) {n : Nat} {f : Connection → World σ}
    (hf : ∀ c, c.wire = n → w.place c.wire = .loose → w.connection c.wire = some c →
      Change w a (f c)) : Change w a (w.withLoose n f) := by
  rcases withLoose_cases w n f with he | ⟨c, hp, hc, he⟩
  · rw [he]
    exact .same
  · have hcn := (hw.made n c hc).1
    rw [he]
    exact hf c hcn (hcn ▸ hp) (hcn ▸ hc)

/-- A loose connection can become a link. -/
theorem take_change (hw : w.Sound me) {c : Connection} {origin : Origin}
    {incoming forced : Bool} {options : LinkOptions} {m : Manager σ}
    (hp : w.place c.wire = .loose) (hc : w.connection c.wire = some c)
    (hm : Manager.Like
      { w.manager with
        tasks := w.manager.tasks.put c.wire
          ⟨origin, .handling (Manager.handlerFor c incoming forced options)⟩ } m) :
    Change w a (give { w with manager := m } c.wire (.taken c.wire)) := by
  have hnone := hw.no_task hc (by rw [hp]; simp)
  exact .take hp hc (hw.place_ne_of_none hnone) (hw.lt_next hc) (.inl rfl) hm

/-- **What a delivery comes to**: there is no listener for the connection, it is
refused, or it joins the queue of the inlet that was opened last. -/
theorem deliver_cases (w : World σ) (spec : String) (c : Connection) :
    ((w.manager.deliver spec c).1 = .noListener ∧ w.deliver spec c = w) ∨
    ((w.manager.deliver spec c).1 = .refused ∧
      w.deliver spec c = (w.onManager (·.onWire c.wire Wire.drop)).give c.wire .discarded) ∨
    ∃ j inlet, w.manager.inlets.rows.reverse.find? (·.2.spec.text = spec) = some (j, inlet) ∧
      inlet.isServed = true ∧ (w.manager.deliver spec c).1 = .taken ∧
      w.deliver spec c =
        (w.onManager fun m =>
          { m with inlets := m.inlets.put j { inlet with queue := inlet.queue ++ [c] } }).give
          c.wire (.queued j) := by
  unfold World.deliver Manager.deliver
  cases hj : w.manager.inlets.rows.reverse.find? (·.2.spec.text = spec) with
  | none => exact .inl ⟨rfl, rfl⟩
  | some row =>
      obtain ⟨j, inlet⟩ := row
      dsimp only
      split
      · exact .inl ⟨rfl, rfl⟩
      · split
        · exact .inr (.inl ⟨rfl, rfl⟩)
        · next hserved =>
            simp only [Bool.not_eq_true', Bool.not_eq_false] at hserved
            exact .inr (.inr ⟨j, inlet, rfl, hserved, rfl, rfl⟩)

/-- Numbers of inlets are not used twice, so the last inlet of a place is also
the one with its number. -/
theorem Sound.find?_of_last (hw : w.Sound me) {spec : String} {j : Nat} {inlet : Inlet}
    (hj : w.manager.inlets.rows.reverse.find? (·.2.spec.text = spec) = some (j, inlet)) :
    w.manager.inlets.find? j = some inlet :=
  Table.find?_of_mem hw.inlets (Manager.mem_of_find?_reverse hj)

theorem deliver_change (hw : w.Sound me) (spec : String) {c : Connection}
    (hp : w.place c.wire = .loose) (hc : w.connection c.wire = some c) :
    Change w a (w.deliver spec c) := by
  rcases deliver_cases w spec c with ⟨-, he⟩ | ⟨-, he⟩ | ⟨j, inlet, hj, -, -, he⟩ <;> rw [he]
  · exact .same
  · exact .discard hp hc
  · exact .enqueue hp hc (hw.find?_of_last hj)

/-- **What the move of a listener comes to**: nothing, its end if the node is
stopped or nothing more can come, or a task for the connection that waits
first. -/
theorem inletMove_cases (w : World σ) (j : Nat) :
    (w.popped? j = none ∧
      (w.inletMove j = w ∨
        ∃ inlet, w.manager.inlets.find? j = some inlet ∧ inlet.isServed = true ∧
          (w.manager.isStopped = true ∨ inlet.queue = []) ∧
          w.inletMove j = w.onManager fun m => m.finishInlet j inlet.spec)) ∨
    ∃ inlet c queue, w.popped? j = some c ∧ w.manager.inlets.find? j = some inlet ∧
      inlet.isServed = true ∧ inlet.queue = c :: queue ∧
      w.inletMove j =
        give (w.onManager fun m =>
          Manager.spawn { m with inlets := m.inlets.put j { inlet with queue } } c.wire
            (.inbound c.name) (.handling (Manager.handlerFor c true false {})))
          c.wire (.taken c.wire) := by
  unfold inletMove Manager.stepInlet
  cases hj : w.manager.inlets.find? j with
  | none => exact .inl ⟨by simp [popped?, hj], .inl rfl⟩
  | some inlet =>
      cases hs : inlet.isServed with
      | false => exact .inl ⟨by simp [popped?, hj, hs], .inl (by simp [hs])⟩
      | true =>
          cases hst : w.manager.isStopped with
          | true =>
              -- The listener of a stopped node finishes, and takes nothing.
              have hpop : w.popped? j = none := by simp [popped?, hj, hst]
              exact .inl ⟨hpop, .inr ⟨inlet, rfl, hs, .inl rfl, by simp [hs, hpop, onManager]⟩⟩
          | false =>
              cases hq : inlet.queue with
              | cons c queue =>
                  have hpop : w.popped? j = some c := by simp [popped?, hj, hs, hst, hq]
                  refine .inr ⟨inlet, c, queue, hpop, rfl, hs, hq, ?_⟩
                  simp [hs, hq, hpop, onManager]
              | nil =>
                  have hpop : w.popped? j = none := by simp [popped?, hj, hq]
                  refine .inl ⟨hpop, ?_⟩
                  cases hf : inlet.isFed with
                  | true => exact .inl (by simp [hs, hq, hf])
                  | false =>
                      exact .inr ⟨inlet, rfl, hs, .inr hq, by simp [hs, hq, hf, hpop, onManager]⟩

/-- A listener that takes a connection takes the first of its queue. -/
theorem inletMove_of_popped {j : Nat} {c : Connection} (hc : w.popped? j = some c) :
    ∃ inlet queue, w.manager.inlets.find? j = some inlet ∧ inlet.queue = c :: queue ∧
      w.inletMove j =
        give (w.onManager fun m =>
          Manager.spawn { m with inlets := m.inlets.put j { inlet with queue } } c.wire
            (.inbound c.name) (.handling (Manager.handlerFor c true false {})))
          c.wire (.taken c.wire) := by
  rcases inletMove_cases w j with ⟨hnone, -⟩ | ⟨inlet, c', queue, hc', hj, -, hq, he⟩
  · cases hnone.symm.trans hc
  · cases hc'.symm.trans hc
    exact ⟨inlet, queue, hj, hq, he⟩

/-- So does a listener that does not look at the stop. -/
theorem serve_of_popped {j : Nat} {c : Connection} (hc : (w.flag false).popped? j = some c) :
    ∃ inlet queue, w.manager.inlets.find? j = some inlet ∧ inlet.queue = c :: queue ∧
      w.serve j =
        give (w.onManager fun m =>
          Manager.spawn { m with inlets := m.inlets.put j { inlet with queue } } c.wire
            (.inbound c.name) (.handling (Manager.handlerFor c true false {})))
          c.wire (.taken c.wire) := by
  obtain ⟨inlet, queue, hj, hq, he⟩ := inletMove_of_popped hc
  refine ⟨inlet, queue, hj, hq, ?_⟩
  rw [serve, he]
  rfl

/-- What a listener would take waits in its queue. -/
theorem queued_of_popped {j : Nat} {c : Connection} (hc : w.popped? j = some c) :
    w.manager.Queued c.wire := by
  obtain ⟨inlet, queue, hj, hq, -⟩ := inletMove_of_popped hc
  exact ⟨j, inlet, hj, by simp [hq]⟩

/-- A listener that takes nothing leaves the links alone. -/
theorem keeps_inletMove {j : Nat} (h : w.popped? j = none) :
    ∃ m, w.manager.Keeps m ∧ w.inletMove j = { w with manager := m } := by
  rcases inletMove_cases w j with ⟨-, he | ⟨inlet, -, -, -, he⟩⟩ | ⟨_, _, _, hc, -⟩
  · exact ⟨w.manager, .refl _, he⟩
  · exact ⟨_, Manager.keeps_finishInlet _ _ _, he⟩
  · cases h.symm.trans hc

theorem inletMove_change (w : World σ) (j : Nat) : Change w (.inlet j) (w.inletMove j) := by
  cases hpop : w.popped? j with
  | none =>
      obtain ⟨m, hm, he⟩ := keeps_inletMove hpop
      rw [he]
      exact .keep hm
  | some c =>
      obtain ⟨inlet, queue, hj, hq, he⟩ := inletMove_of_popped hpop
      rw [he]
      exact .pop (.inl rfl) hj hq

/-- A listener that does not look at the stop does what it would do if there
were none. -/
theorem serve_change (w : World σ) (j : Nat) : Change w (.serve j) (w.serve j) := by
  cases hpop : (w.flag false).popped? j with
  | none =>
      obtain ⟨m, hm, he⟩ := keeps_inletMove hpop
      rw [serve, he]
      exact .keep ⟨hm.tasks, hm.registry, hm.identity, hm.wires, hm.spared, hm.numbers,
        hm.queues, id⟩
  | some c =>
      obtain ⟨inlet, queue, hj, hq, he⟩ := serve_of_popped hpop
      rw [he]
      exact .pop (.inr rfl) hj hq

theorem call_change (w : World σ) (uri : String) (source : Option String) :
    Change w a (w.call uri source) := by
  unfold call Manager.call
  cases CallTarget.parse uri source with
  | error e => exact .same
  | ok target =>
      dsimp only
      split
      · next hm =>
          split at hm
          · cases hm
          · cases hm
            exact .spawn
      · exact .same

/-- A task without a handler does nothing that is put on record. -/
theorem newDeeds_of_none {t : Nat} (hh : w.handler? t = none) : w.newDeeds t = [] := by
  unfold newDeeds
  rw [hh]

/-- A task that calls dials next, or is refused. -/
theorem startCall_change {t : Nat} {origin : Origin} {target : CallTarget}
    (ht : w.manager.tasks.find? t = some ⟨origin, .calling target⟩) :
    Change w (.task t) { w with manager := w.manager.startCall t origin target } := by
  unfold Manager.startCall
  split
  · next hs => exact .idle (.refused hs) ht ⟨rfl, rfl, rfl, rfl, rfl, rfl⟩
  · next hs =>
      rw [Bool.not_eq_true] at hs
      exact .idle (.dials hs) ht ⟨rfl, rfl, rfl, rfl, rfl, rfl⟩

/-- A request to the transport leaves the links alone. -/
theorem like_asked {α : Type} (m : Manager σ) (request : Request) (reply : Reply σ α) :
    m.Like (m.asked request reply) := ⟨rfl, rfl, rfl, rfl, rfl, rfl⟩

/-- The end of a task changes nothing but the task. -/
theorem like_conclude {m m' : Manager σ} (hm : m.Like m') (t : Nat) (origin : Origin)
    (outcome : Outcome) :
    Manager.Like { m with tasks := m.tasks.put t ⟨origin, .done outcome⟩ }
      (m'.conclude t origin outcome) where
  tasks := by
    show m'.tasks.put t ⟨origin, .done outcome⟩ = m.tasks.put t ⟨origin, .done outcome⟩
    rw [hm.tasks]
  registry := hm.registry
  identity := hm.identity
  wires := hm.wires
  inlets := hm.inlets
  isStopped := hm.isStopped

/-- A dial fails, or returns a connection of which a link is made. -/
theorem dial_change (hw : w.Sound me) {t : Nat} {origin : Origin} {target : DialTarget}
    {options : LinkOptions} (reply : Reply σ Connection)
    (ht : w.manager.tasks.find? t = some ⟨origin, .dialling target options⟩) :
    (∀ e, reply.result = .error e → Change w (.task t)
      { w with
        manager := (w.manager.asked (.dial target) reply).conclude t origin
          (.failed (.transport e)) }) ∧
    (∀ c, w.place c.wire = .loose → w.connection c.wire = some c → Change w (.task t)
      (give { w with
        manager := (w.manager.asked (.dial target) reply).spawn t origin
          (.handling (Manager.handlerFor c false false options)) } c.wire (.taken t))) := by
  constructor
  · intro e _
    exact .idle .fails ht (like_conclude (like_asked _ _ _) t origin _)
  · intro c hp hc
    -- Whoever dials has no connection yet.
    have hfree : ∀ n, w.place n ≠ .taken t := by
      refine hw.place_ne ht ?_
      intro fired c wire ds hatt
      exact hatt
    obtain ⟨hlt, hor⟩ := hw.tasks t _ ht
    have hnone := hor.resolve_right (hfree t)
    exact .take hp hc hfree hlt (.inr ⟨hnone, _, _, _, ht⟩) ⟨rfl, rfl, rfl, rfl, rfl, rfl⟩

/-- A handler's task makes the handler's move, or ends with the handler. -/
theorem stepHandler_change (hw : w.Sound me) {t : Nat} {origin : Origin} {h : Handler}
    {m : Manager σ} (ht : w.manager.tasks.find? t = some ⟨origin, .handling h⟩)
    (hm : w.manager.stepHandler t origin h = some m) :
    Change w (.task t) { w with manager := m, deeds := w.deeds ++ w.newDeeds t } := by
  have hh : w.handler? t = some h := handler?_of_find? ht
  unfold Manager.stepHandler at hm
  split at hm
  · next outcome ho =>
      cases hm
      -- A handler that has ended makes no move, so nothing goes on record.
      have hstep : ∀ wire, h.step w.manager.toNode wire = none := by
        intro wire
        rw [Handler.step, Handler.outcome?_eq_some.mp ho]
      have hdeeds : w.newDeeds t = [] := by
        unfold newDeeds
        rw [hh]
        cases hwire : w.wire? h.number <;> simp [hwire, hstep]
      rw [hdeeds, List.append_nil]
      exact .conclude ht ho
  · split at hm
    · cases hm
    · next wire hwire =>
        obtain ⟨move, hmove, rfl⟩ := Option.map_eq_some_iff.mp hm
        have hdeeds : w.newDeeds t = (h.deeds w.manager.toNode move).map (h.number, ·) := by
          unfold newDeeds
          rw [hh]
          simp [wire?, hwire, hmove]
        obtain ⟨_, _, -, -, -, htends⟩ := hw.tends hh
        rw [hdeeds]
        exact .move (.inl rfl) ht hwire (Handler.step_turn htends.staged hmove)

theorem taskMove_change (T : Transport σ) (hw : w.Sound me) (t : Nat) :
    Change w (.task t) (w.taskMove T t) := by
  unfold taskMove Manager.stepTask dialled?
  cases ht : w.manager.tasks.find? t with
  | none => exact .same
  | some task =>
      obtain ⟨origin, activity⟩ := task
      cases activity with
      | calling target =>
          have hh : w.handler? t = none := handler?_of_find? ht
          simp only [Option.bind_some, newDeeds_of_none hh, List.append_nil]
          exact startCall_change ht
      | dialling target options =>
          have hh : w.handler? t = none := handler?_of_find? ht
          obtain ⟨hfail, hdone⟩ :=
            dial_change hw (T.dial target w.manager.transport) ht
          unfold Manager.dial
          cases hr : (T.dial target w.manager.transport).result with
          | error e =>
              simp only [Option.bind_some, hr, Except.toOption, newDeeds_of_none hh,
                List.append_nil]
              exact hfail e hr
          | ok c =>
              simp only [Option.bind_some, hr, Except.toOption]
              -- A transport that returns a connection which is not loose is not
              -- listened to.
              refine withLoose_change hw ?_
              intro c' hcw hp hc
              split
              · next hcc =>
                  subst hcc
                  exact hdone c' hp hc
              · exact .same
      | handling h =>
          simp only [Option.bind_some]
          cases hm : w.manager.stepHandler t origin h with
          | none => exact .same
          | some m => exact stepHandler_change hw ht hm
      | done outcome => exact .same

/-- What an engine does keeps to what the link's end can do. -/
theorem plausible_progress (session : Engine.Session) (wire : Wire) (what : EngineAct) :
    Handler.Plausible wire (what.progress session wire) := by
  cases what with
  | read limit =>
      unfold EngineAct.progress
      dsimp only
      split
      · next bs wire' hr => exact Wire.evolves_read hr
      · trivial
  | write bs =>
      unfold EngineAct.progress
      dsimp only
      split
      · next rest wire' hr => exact Wire.evolves_write hr
      · trivial
  | shutDown =>
      unfold EngineAct.progress
      dsimp only
      have hevolves := wire.evolves_shutdown
      split
      · trivial
      · next wire' _ hs =>
          rw [hs] at hevolves
          exact hevolves
  | drop => exact Wire.evolves_drop wire
  | finish result => trivial
  | collapse => trivial

/-- A tunnel does nothing that is put on record. -/
theorem deeds_afterEngine {node : Node} {wire : Wire} {h : Handler} {entry : Handle}
    {session : Engine.Session} {progress : Engine.Progress} {move : Handler.Move}
    (hp : h.phase = .tunnelling entry session)
    (hm : h.afterEngine node wire entry progress = some move) : h.deeds node move = [] := by
  simp only [Handler.deeds, hp]
  cases progress with
  | waiting => cases hm
  | going session' wire' =>
      cases hm
      rfl
  | returned result notices =>
      cases hm
      exact Handler.handOvers_notices notices
  | collapsed =>
      cases hm
      exact Handler.handOvers_release _ _

theorem engineMove_change (w : World σ) (t : Nat) (what : EngineAct) :
    Change w (.tunnel t what) (w.engineMove t what) := by
  unfold engineMove
  split
  · next origin h ht =>
      split
      · next entry session wire hp hwire =>
          split
          · exact .same
          · next move hmove =>
              have hturn := Handler.afterEngine_turn hp (plausible_progress session wire what) hmove
              have hchange := Change.move (.inr ⟨⟨what, rfl⟩, entry, session, hp⟩) ht hwire hturn
              rw [deeds_afterEngine hp hmove, List.map_nil, List.append_nil] at hchange
              exact hchange
      · exact .same
  · exact .same

theorem cancel_change (hw : w.Sound me) (t : Nat) : Change w (.cancel t) (w.cancel t) := by
  unfold World.cancel
  split
  · exact .same
  · next hbusy =>
      unfold Manager.cancel
      cases ht : w.manager.tasks.find? t with
      | none => simpa only [onManager, ht] using Change.same
      | some task =>
          obtain ⟨origin, activity⟩ := task
          simp only [onManager, ht]
          cases activity with
          | calling target =>
              exact .idle (.cancelled (by simp) (by simp)) ht (like_conclude (.refl _) t origin _)
          | dialling target options =>
              exact .idle (.cancelled (by simp) (by simp)) ht (like_conclude (.refl _) t origin _)
          | done outcome => exact .same
          | handling h =>
              have hh : w.handler? t = some h := handler?_of_find? ht
              obtain ⟨_, wire, -, hwire, -, -⟩ := hw.tends hh
              have hwire' : w.manager.wires.find? h.number = some wire := hwire
              simp only [hh, Option.any_some, Bool.not_eq_true] at hbusy
              simp only [hwire']
              exact .cancel ht hwire hbusy

/-- **Every act is a change of the list.** -/
theorem act_change (T : Transport σ) (hw : w.Sound me) (a : Act σ) :
    Change w a (w.act T a) := by
  cases a with
  | make kind name source remote capacity faults => exact .make _ _ _ _ _ _
  | discard n =>
      refine withLoose_change hw ?_
      rintro c rfl hp hc
      exact .discard hp hc
  | run n incoming forced options =>
      refine withLoose_change hw ?_
      rintro c rfl hp hc
      exact take_change hw hp hc ⟨rfl, rfl, rfl, rfl, rfl, rfl⟩
  | accept n forced =>
      refine withLoose_change hw ?_
      rintro c rfl hp hc
      exact take_change hw hp hc ⟨rfl, rfl, rfl, rfl, rfl, rfl⟩
  | connect target => exact .spawn
  | call uri source => exact call_change w uri source
  | deliver spec n =>
      refine withLoose_change hw ?_
      rintro c - hp hc
      exact deliver_change hw spec hp hc
  | endInlet spec => exact .keep (Manager.keeps_endInlet hw.inlets spec)
  | remote n what => exact .remote n what
  | clock now => exact .keep (.of_same rfl rfl rfl rfl rfl id)
  | engine engine => exact .keep (.of_same rfl rfl rfl rfl rfl id)
  | transport state => exact .keep (.of_same rfl rfl rfl rfl rfl id)
  | listen spec => exact .keep (Manager.keeps_listen T _ spec)
  | unlisten spec => exact .keep (Manager.keeps_unlisten _ spec)
  | reconfigure config => exact .keep (Manager.keeps_reconfigure T _ config)
  | adopt settings => exact .keep (.of_same rfl rfl rfl rfl rfl id)
  | stop => exact .keep (Manager.keeps_stop T _)
  | raiseStop => exact .keep (Manager.keeps_raiseStop _)
  | dropListeners =>
      show Change w _ (if w.manager.isStopped then _ else _)
      split
      · exact .keep (Manager.keeps_dropListeners _)
      · exact .same
  | stopTransport =>
      show Change w _ (if w.manager.isStopped then _ else _)
      split
      · exact .keep (Manager.keeps_stopTransport T _)
      · exact .same
  | inlet j => exact inletMove_change w j
  | serve j => exact serve_change w j
  | task t => exact taskMove_change T hw t
  | tunnel t what => exact engineMove_change w t what
  | cancel t => exact cancel_change hw t

end World

end LinkLayer

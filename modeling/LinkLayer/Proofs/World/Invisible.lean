/-
  LinkLayer.Proofs.World.Invisible
  ────────────────────────────────
  **A CONNECTION THAT DOES NOT REGISTER CANNOT BE SEEN.**

  `without` is the run that is left when one connection and all that happens
  on it are left out: it is given to no listener and no task, its handler makes
  no move, and its remote end does nothing.

    • `Tally.own` — whatever happens on one connection, and leaves the registry
      alone, changes nothing for the others,
    • `registry_act` — the acts of a link that does not register leave the
      registry alone,
    • `Apart` — what there is to be seen of two worlds in which one connection
      is used, and is not.

  `rejected_invisible` puts them together: at every point, the two runs differ
  in nothing that the other links, their engines or the holders of their
  signals can see.
-/
import LinkLayer.Proofs.Registry.Ownership
import LinkLayer.Proofs.World.Admission
import LinkLayer.Proofs.World.Tally

namespace LinkLayer

/-! ## §1. Managers in which a connection leaves its queue. -/

/-- What is put where it was is nothing new. -/
theorem Table.put_eq_self {α : Type} {t : Table α} {k : Nat} {x : α} (h : t.find? k = some x) :
    t.put k x = t := by
  obtain ⟨rows⟩ := t
  simp only [find?, put] at *
  congr 1
  induction rows with
  | nil => cases h
  | cons row rest ih =>
      by_cases hr : row.1 = k
      · simp only [List.find?_cons, hr, decide_true, Option.map_some, Option.some.injEq] at h
        subst hr h
        rw [putRows, if_pos rfl]
      · simp only [List.find?_cons, hr, decide_false] at h
        simp [putRows, hr, ih h]

namespace Manager.AlikeBut

variable {σ : Type} {n : Nat} {m : Manager σ}

/-- The queue of an inlet changes by one connection. -/
theorem putInlet_own {j : Nat} {inlet inlet' : Inlet} (hj : m.inlets.find? j = some inlet)
    (hi : inlet'.without n = inlet.without n) :
    AlikeBut n { m with inlets := m.inlets.put j inlet' } m := by
  have hput := (refl n m).putInlet j hi
  rw [Table.put_eq_self hj] at hput
  exact hput.symm

end Manager.AlikeBut

end LinkLayer

namespace LinkLayer.World

variable {σ : Type} {T : Transport σ} {me : Identity} {w w' : World σ} {a : Act σ} {n t : Nat}

/-! ## §2. A connection changes hands. -/

namespace Tally

/-- The connection itself changes hands. -/
theorem give_own {m m' : Manager σ} (hm : Manager.AlikeBut n m m') (place : Place)
    (htasks : ∀ t, place ≠ .taken t → m'.tasks.find? t = m.tasks.find? t) :
    Tally n (World.give { w with manager := m } n place) { w with manager := m' } where
  manager := hm
  next := rfl
  connection := rfl
  place := fun _ hk => (Function.update_of_ne hk _ _).symm
  deeds := rfl
  tasks := by
    intro t ht
    have hupdate : (World.give { w with manager := m } n place).place n = place :=
      Function.update_self _ _ _
    rw [hupdate] at ht
    exact htasks t ht

/-- The connection is given to a task that runs its handler. -/
theorem take_own {m m' : Manager σ} (hm : Manager.AlikeBut n m m') (t : Nat) (origin : Origin)
    (activity : Activity) (htasks : m'.tasks = m.tasks) :
    Tally n (World.give { w with manager := m.spawn t origin activity } n (.taken t))
      { w with manager := m' } := by
  have hspawn : Manager.AlikeBut n (m.spawn t origin activity) m' :=
    hm.of_same rfl rfl rfl rfl rfl rfl rfl rfl rfl rfl
  refine give_own hspawn _ ?_
  intro s hs
  rw [htasks]
  refine (Table.find?_put_ne _ _ ?_).symm
  rintro rfl
  exact hs rfl

end Tally

/-- A task that gets a connection by its dial. -/
theorem taskMove_of_dialled {c : Connection} (hc : w.dialled? T t = some c) :
    ∃ origin target options,
      w.manager.tasks.find? t = some ⟨origin, .dialling target options⟩ ∧
      (w.taskMove T t = w ∨
        w.place c.wire = .loose ∧
        w.taskMove T t =
          give (w.onManager fun m =>
            (m.asked (.dial target) (T.dial target m.transport)).spawn t origin
              (.handling (Manager.handlerFor c false false options))) c.wire (.taken t)) := by
  obtain ⟨⟨origin, activity⟩, ht, hdial⟩ := Option.bind_eq_some_iff.mp hc
  cases activity with
  | dialling target options =>
      refine ⟨origin, target, options, ht, ?_⟩
      have hresult : (T.dial target w.manager.transport).result = .ok c := by
        cases hr : (T.dial target w.manager.transport).result with
        | error e => simp [hr, Except.toOption] at hdial
        | ok c' => simpa [hr, Except.toOption] using hdial
      unfold taskMove
      rw [hc]
      simp only [Manager.stepTask, ht, Manager.dial, hresult]
      rcases withLoose_cases w c.wire _ with he | ⟨c', hp, hc', he⟩
      · exact .inl he
      · rw [he]
        split
        · exact .inr ⟨hp, rfl⟩
        · exact .inl rfl
  | _ => cases hdial

/-! ## §3. The run without a connection. -/

instance (T : Transport σ) (n : Nat) (w : World σ) : DecidablePred (Foreign T n w)
  | .discard k | .run k .. | .accept k _ | .deliver _ k | .remote k _ =>
      inferInstanceAs (Decidable (k ≠ n))
  | .inlet j => inferInstanceAs (Decidable (∀ c ∈ w.popped? j, c.wire ≠ n))
  | .serve j => inferInstanceAs (Decidable (∀ c ∈ (w.flag false).popped? j, c.wire ≠ n))
  | .task t =>
      inferInstanceAs (Decidable (w.place n ≠ .taken t ∧ ∀ c ∈ w.dialled? T t, c.wire ≠ n))
  | .tunnel t _ | .cancel t => inferInstanceAs (Decidable (w.place n ≠ .taken t))
  | .make .. | .connect _ | .call .. | .endInlet _ | .clock _ | .engine _ | .transport _
  | .listen _ | .unlisten _ | .reconfigure _ | .adopt _ | .stop | .raiseStop | .dropListeners
  | .stopTransport => inferInstanceAs (Decidable True)

/-- What is left of an act if a connection is left out: the act itself if it is
not about the connection, and nothing otherwise.  What a transport does is not
the node's to decide, so after a dial that returned the connection it has the
state that it has in the full run. -/
def leaveOut (T : Transport σ) (n : Nat) (w : World σ) (a : Act σ) : List (Act σ) :=
  if Foreign T n w a then [a]
  else
    match a with
    | .task t =>
        if w.place n = .taken t then [] else [.transport (w.act T (.task t)).manager.transport]
    | _ => []

/-- The run that is left if a connection is left out. -/
def without (T : Transport σ) (n : Nat) (w : World σ) : List (Act σ) → List (Act σ)
  | [] => []
  | a :: rest => leaveOut T n w a ++ without T n (w.act T a) rest

/-- Of an act that is about the connection, the state of the transport is left at
most. -/
theorem leaveOut_own (ha : ¬ Foreign T n w a) :
    leaveOut T n w a = [] ∨ ∃ state, leaveOut T n w a = [.transport state] := by
  unfold leaveOut
  rw [if_neg ha]
  split
  · split
    · exact .inl rfl
    · exact .inr ⟨_, rfl⟩
  · exact .inl rfl

/-- At most one act is left of each. -/
theorem leaveOut_cases (T : Transport σ) (n : Nat) (w : World σ) (a : Act σ) :
    leaveOut T n w a = [] ∨ ∃ b, leaveOut T n w a = [b] := by
  by_cases ha : Foreign T n w a
  · exact .inr ⟨a, if_pos ha⟩
  · exact (leaveOut_own ha).imp_right fun ⟨_, he⟩ => ⟨_, he⟩

/-- What a caller does with a connection changes nothing for the others, if what
comes of it does not. -/
theorem Tally.withLoose_own {f : Connection → World σ}
    (hf : ∀ c, w.connection n = some c → Tally n (f c) w) : Tally n (w.withLoose n f) w := by
  rcases withLoose_cases w n f with he | ⟨c, -, hc, he⟩
  · rw [he]
    exact .refl n w
  · rw [he]
    exact hf c hc

/-- A task that gets a connection by its dial changes nothing for the others but
the state of the transport. -/
theorem Tally.dialled_own {c : Connection} (hc : w.dialled? T t = some c) :
    Tally c.wire (w.taskMove T t)
      (w.act T (.transport (w.taskMove T t).manager.transport)) := by
  obtain ⟨origin, target, options, -, he | ⟨-, he⟩⟩ := taskMove_of_dialled hc
  · rw [he]
    exact .refl _ w
  · have hasked : Manager.AlikeBut c.wire
        (w.manager.asked (.dial target) (T.dial target w.manager.transport))
        { w.manager with transport := (T.dial target w.manager.transport).state } :=
      ⟨rfl, rfl, rfl, rfl, fun _ _ => rfl⟩
    rw [he]
    exact Tally.take_own (w := w) hasked t origin
      (.handling (Manager.handlerFor c false false options)) rfl

/-- **What happens on one connection, and leaves the registry alone, changes
nothing for the others.** -/
theorem Tally.own (T : Transport σ) (hw : w.Sound me) (ha : ¬ Foreign T n w a)
    (hreg : (w.act T a).manager.registry = w.manager.registry) :
    Tally n (w.act T a) (w.run T (leaveOut T n w a)) := by
  have hrefl : Manager.AlikeBut n w.manager w.manager := .refl n w.manager
  unfold leaveOut
  rw [if_neg ha]
  cases a with
  | discard k =>
      obtain rfl : k = n := not_not.mp ha
      exact Tally.withLoose_own fun c _ => Tally.give_own (hrefl.onWire_left _) _ fun _ _ => rfl
  | run k incoming forced options =>
      obtain rfl : k = n := not_not.mp ha
      exact Tally.withLoose_own fun c _ => Tally.take_own hrefl k _ _ rfl
  | accept k forced =>
      obtain rfl : k = n := not_not.mp ha
      refine Tally.withLoose_own fun c hc => ?_
      obtain ⟨hck, -⟩ := hw.made k c hc
      have htake := Tally.take_own (w := w) hrefl k .caller
        (.handling (Manager.handlerFor c true forced {})) rfl
      simp only [Manager.accept, hck]
      exact htake
  | deliver spec k =>
      obtain rfl : k = n := not_not.mp ha
      refine Tally.withLoose_own fun c hc => ?_
      obtain ⟨rfl, -⟩ := hw.made k c hc
      rcases deliver_cases w spec c with ⟨-, hd⟩ | ⟨-, hd⟩ | ⟨j, inlet, hj, -, -, hd⟩
      · rw [hd]
        exact .refl _ w
      · rw [hd]
        exact Tally.give_own (hrefl.onWire_left _) _ fun _ _ => rfl
      · rw [hd]
        have hfind := hw.find?_of_last hj
        refine Tally.give_own (Manager.AlikeBut.putInlet_own hfind ?_) _ fun _ _ => rfl
        exact Inlet.without_eq_iff.mpr ⟨rfl, by simp, rfl, rfl⟩
  | remote k what =>
      obtain rfl : k = n := not_not.mp ha
      exact ⟨hrefl.onWire_left _, rfl, rfl, fun _ _ => rfl, rfl, fun _ _ => rfl⟩
  | inlet j =>
      obtain ⟨c, hc, rfl⟩ : ∃ c ∈ w.popped? j, c.wire = n := by
        simpa only [Foreign, not_forall, not_not, exists_prop] using ha
      obtain ⟨inlet, queue, hj, hq, hmove⟩ := inletMove_of_popped hc
      show Tally c.wire (w.inletMove j) w
      rw [hmove]
      refine Tally.take_own (Manager.AlikeBut.putInlet_own hj ?_) c.wire _ _ rfl
      exact Inlet.without_eq_iff.mpr ⟨rfl, by simp [hq], rfl, rfl⟩
  | serve j =>
      obtain ⟨c, hc, rfl⟩ : ∃ c ∈ (w.flag false).popped? j, c.wire = n := by
        simpa only [Foreign, not_forall, not_not, exists_prop] using ha
      obtain ⟨inlet, queue, hj, hq, hmove⟩ := serve_of_popped hc
      show Tally c.wire (w.serve j) w
      rw [hmove]
      refine Tally.take_own (Manager.AlikeBut.putInlet_own hj ?_) c.wire _ _ rfl
      exact Inlet.without_eq_iff.mpr ⟨rfl, by simp [hq], rfl, rfl⟩
  | task t =>
      by_cases hp : w.place n = .taken t
      · simp only [hp, if_true]
        exact (act_deals T hw hp _).own hp (.inl rfl) hreg
      · -- The task gets the connection by its dial.
        simp only [hp, if_false]
        obtain ⟨c, hc, rfl⟩ : ∃ c ∈ w.dialled? T t, c.wire = n := by
          simpa [Foreign, hp] using ha
        exact Tally.dialled_own hc
  | tunnel t what =>
      have hp : w.place n = .taken t := not_not.mp ha
      exact (act_deals T hw hp _).own hp (.inr (.inr (.inl ⟨what, rfl⟩))) hreg
  | cancel t =>
      have hp : w.place n = .taken t := not_not.mp ha
      exact (act_deals T hw hp _).own hp (.inr (.inl rfl)) hreg
  | _ => exact absurd trivial ha

/-! ## §4. Links that do not register. -/

/-- A handler that holds an entry is that of a link that joined. -/
theorem Sound.joined_of_entry (hw : w.Sound me) {h : Handler} {e : Handle}
    (hh : w.handler? t = some h) (he : h.entry? = some e) : w.Joined h.number := by
  obtain ⟨c, wire, -, -, -, htends⟩ := hw.tends hh
  exact ⟨e, (htends.chronicle.asked_of_entry he).1⟩

/-- An act that is about a connection, and of a task with a handler, is an act
of the task that has the connection. -/
theorem Sound.number_of_own (hw : w.Sound me) (ha : ¬ Foreign T n w a) {h : Handler}
    (hh : w.handler? t = some h) (hor : a = .task t ∨ a = .cancel t ∨ ∃ what, a = .tunnel t what) :
    h.number = n := by
  have hnumber : w.place n = .taken t → h.number = n := fun hp => (hw.number_of_place hp hh).1
  rcases hor with rfl | rfl | ⟨what, rfl⟩
  · refine hnumber (by_contra fun hp => ha ⟨hp, ?_⟩)
    -- Whoever runs a handler dials no more.
    intro c hc
    obtain ⟨origin, target, options, ht, -⟩ := taskMove_of_dialled hc
    cases (handler?_of_find? ht).symm.trans hh
  · exact hnumber (not_not.mp ha)
  · exact hnumber (not_not.mp ha)

/-- **The acts of a link that does not register leave the registry alone.** -/
theorem registry_act (T : Transport σ) (hw : w.Sound me) (ha : ¬ Foreign T n w a)
    (hj : ¬ (w.act T a).Joined n) :
    (w.act T a).manager.registry = w.manager.registry := by
  have hc := act_change T hw a
  have hw₁ := hc.sound hw
  -- Records only grow, so the link had not joined before.
  have hjw : ¬ w.Joined n := fun ⟨e, he⟩ => hj ⟨e, (deedsOf_run hw [a] n).subset he⟩
  generalize w.act T a = w₁ at hc hw₁ hj
  -- Nobody has an entry who did not join.
  have hnone : ∀ {v : World σ} {s : Nat} {h : Handler}, v.Sound me → ¬ v.Joined n →
      v.handler? s = some h → h.number = n → h.entry? = none := by
    intro v s h hv hjoined hh hn
    cases he : h.entry? with
    | none => rfl
    | some e => exact absurd (hn ▸ hv.joined_of_entry hh he) hjoined
  cases hc with
  | keep hm => exact hm.registry
  | take _ _ _ _ _ hm => exact hm.registry
  | idle _ _ hm => exact hm.registry
  | @move _ s origin h wire move hmoves ht hwire hturn =>
      have hh : w.handler? s = some h := handler?_of_find? ht
      have hn : h.number = n := by
        refine hw.number_of_own ha hh ?_
        rcases hmoves with rfl | ⟨htunnel, -⟩
        · exact .inl rfl
        · exact .inr (.inr htunnel)
      have hh₁ : handler? { w with
          manager := w.manager.applyMove s origin h.number move
          deeds := w.deeds ++ (h.deeds w.manager.toNode move).map (h.number, ·) } s =
          some move.handler :=
        (handler?_put _ _ _ _).trans (if_pos rfl)
      have hafter := hnone hw₁ hj hh₁ (hturn.link.2.trans hn)
      cases hturn.effect with
      | keep hr => exact hr
      | enter entry _ _ _ hsome => cases hafter.symm.trans hsome
      | leave entry hsome => cases (hnone hw hjw hh hn).symm.trans hsome
  | @cancel s origin h wire ht hwire hbusy =>
      have hh : w.handler? s = some h := handler?_of_find? ht
      have hn : h.number = n := hw.number_of_own ha hh (.inr (.inl rfl))
      have heffect : Handler.Effect w.manager.toNode.registry h
          (h.cancel w.manager.toNode wire) := Handler.cancel_effect
      cases heffect with
      | keep hr => exact hr
      | enter entry _ _ _ hsome => cases Handler.cancel_entry.symm.trans hsome
      | leave entry hsome => cases (hnone hw hjw hh hn).symm.trans hsome
  | _ => rfl

/-! ## §5. The two runs, act by act. -/

/-- Nobody uses a connection: it is made at most. -/
def Unused (w : World σ) (n : Nat) : Prop := w.place n = .unmade ∨ w.place n = .loose

theorem Unused.not_taken (hu : w.Unused n) (t : Nat) : w.place n ≠ .taken t := by
  rcases hu with hp | hp <;> simp [hp]

theorem Unused.not_queued (hu : w.Unused n) (hw : w.Sound me) : ¬ w.manager.Queued n := by
  rintro ⟨j, inlet, hj, hin⟩
  obtain ⟨c, hc, rfl⟩ := List.mem_map.mp hin
  have hq := (hw.queued j inlet hj c hc).2
  rcases hu with hp | hp <;> cases hp.symm.trans hq

/-- A listener gives away what it takes, and nothing else. -/
theorem place_inletMove (w : World σ) (j : Nat) (ha : ∀ c ∈ w.popped? j, c.wire ≠ n) :
    (w.inletMove j).place n = w.place n := by
  unfold inletMove
  split
  · rfl
  · split
    · rfl
    · next c hc => exact Function.update_of_ne (Ne.symm (ha c hc)) _ _

/-- A connection is given away by acts that are about it. -/
theorem place_of_foreign (T : Transport σ) (hw : w.Sound me) (ha : Foreign T n w a) :
    (w.act T a).place n = w.place n ∨ (w.act T a).place n = .loose := by
  have hloose : ∀ {k : Nat} {f : Connection → World σ},
      (∀ c, w.connection k = some c → (f c).place n = w.place n) →
      (w.withLoose k f).place n = w.place n := by
    intro k f hf
    rcases withLoose_cases w k f with he | ⟨c, -, hc, he⟩
    · rw [he]
    · rw [he]
      exact hf c hc
  cases a with
  | make kind name source remote capacity faults =>
      by_cases hn : n = w.next
      · refine .inr ?_
        rw [hn]
        exact Function.update_self _ _ _
      · exact .inl (Function.update_of_ne hn _ _)
  | discard k => exact .inl (hloose fun c _ => Function.update_of_ne (Ne.symm ha) _ _)
  | run k incoming forced options =>
      exact .inl (hloose fun c _ => Function.update_of_ne (Ne.symm ha) _ _)
  | accept k forced => exact .inl (hloose fun c _ => Function.update_of_ne (Ne.symm ha) _ _)
  | deliver spec k =>
      refine .inl (hloose fun c hc => ?_)
      obtain ⟨rfl, -⟩ := hw.made k c hc
      rcases deliver_cases w spec c with ⟨-, he⟩ | ⟨-, he⟩ | ⟨j, inlet, -, -, -, he⟩
      · rw [he]
      · rw [he]
        exact Function.update_of_ne (Ne.symm ha) _ _
      · rw [he]
        exact Function.update_of_ne (Ne.symm ha) _ _
  | call uri source =>
      left
      show (w.call uri source).place n = w.place n
      unfold World.call
      split <;> rfl
  | dropListeners =>
      left
      show (if w.manager.isStopped then _ else w : World σ).place n = w.place n
      split <;> rfl
  | stopTransport =>
      left
      show (if w.manager.isStopped then _ else w : World σ).place n = w.place n
      split <;> rfl
  | inlet j => exact .inl (place_inletMove w j ha)
  | serve j => exact .inl (place_inletMove (w.flag false) j ha)
  | task t =>
      left
      show (w.taskMove T t).place n = w.place n
      unfold taskMove
      split
      · rfl
      · split
        · rfl
        · next c hc =>
            refine hloose fun c' _ => ?_
            split
            · exact Function.update_of_ne (Ne.symm (ha.2 c hc)) _ _
            · rfl
  | tunnel t what =>
      left
      show (w.engineMove t what).place n = w.place n
      unfold engineMove
      split
      · split
        · split <;> rfl
        · rfl
      · rfl
  | cancel t =>
      left
      show (w.cancel t).place n = w.place n
      unfold World.cancel
      split <;> rfl
  | _ => exact .inl rfl

/-- One world without a connection beside one with it. -/
structure Beside (n : Nat) (w w' : World σ) : Prop where
  tally : Tally n w w'
  unused : w'.Unused n

/-- What is not about the connection on the first side is not on the second. -/
theorem Beside.foreign (h : Beside n w w') (hw' : w'.Sound me) (ha : Foreign T n w a) :
    Foreign T n w' a := by
  obtain ⟨htally, hu⟩ := h
  cases a with
  | inlet j =>
      rintro c hc rfl
      exact hu.not_queued hw' (queued_of_popped hc)
  | serve j =>
      rintro c hc rfl
      have hq : (w'.flag false).manager.Queued c.wire := queued_of_popped hc
      exact hu.not_queued hw' hq
  | task t =>
      refine ⟨hu.not_taken t, ?_⟩
      have hdial : w'.dialled? T t = w.dialled? T t := by
        unfold dialled?
        rw [htally.tasks t ha.1, htally.manager.transport]
      rw [hdial]
      exact ha.2
  | tunnel t what => exact hu.not_taken t
  | cancel t => exact hu.not_taken t
  | _ => exact ha

/-- A connection that nobody uses is not used by acts of others. -/
theorem Unused.act (hu : w.Unused n) (T : Transport σ) (hw : w.Sound me)
    (ha : Foreign T n w a) : (w.act T a).Unused n := by
  rcases place_of_foreign T hw ha with hp | hp
  · exact hu.imp hp.trans hp.trans
  · exact .inr hp

/-- **One act of the full run, and what is left of it.** -/
theorem Beside.act (h : Beside n w w') (T : Transport σ) (hw : w.Sound me) (hw' : w'.Sound me)
    (hj : ¬ (w.act T a).Joined n) :
    Beside n (w.act T a) (w'.run T (leaveOut T n w a)) := by
  have hq := h.unused.not_queued hw'
  by_cases ha : Foreign T n w a
  · -- What is not about the connection happens on both sides.
    have hleft : leaveOut T n w a = [a] := if_pos ha
    rw [hleft]
    exact ⟨h.tally.foreign T hw hw' hq ha, h.unused.act T hw' (h.foreign hw' ha)⟩
  · -- What is about it is not seen: at most the transport has another state now.
    have hown := Tally.own T hw ha (registry_act T hw ha hj)
    have hplace := fun t ht => (act_change T hw a).place (t := t) hw (n := n) ht
    rcases leaveOut_own ha with he | ⟨state, he⟩
    · rw [he] at hown ⊢
      exact ⟨h.tally.after hown hplace, h.unused⟩
    · rw [he] at hown ⊢
      have htransport : Tally n (w.act T (.transport state)) (w'.act T (.transport state)) :=
        h.tally.foreign T hw hw' hq trivial
      exact ⟨htransport.after hown hplace, h.unused⟩

/-- **A run without a connection stays beside the full run.** -/
theorem Beside.run (h : Beside n w w') (T : Transport σ) (hw : w.Sound me) (hw' : w'.Sound me)
    {acts : List (Act σ)} (hj : ¬ (w.run T acts).Joined n) :
    Beside n (w.run T acts) (w'.run T (without T n w acts)) := by
  induction acts generalizing w w' with
  | nil => exact h
  | cons a rest ih =>
      have hw₁ := (act_change T hw a).sound hw
      have hj₁ : ¬ (w.act T a).Joined n :=
        fun ⟨e, he⟩ => hj ⟨e, (deedsOf_run hw₁ rest n).subset he⟩
      have hrest := ih (h.act T hw hw' hj₁) hw₁ (hw'.run T (leaveOut T n w a)) hj
      rw [← run_append] at hrest
      exact hrest

/-! ## §6. What there is to be seen. -/

/-- No two connections are with one task. -/
def Single (w : World σ) : Prop := ∀ n k t, w.place n = .taken t → w.place k = .taken t → n = k

/-- A connection is not given to a task that has another one. -/
theorem single_update {place : Nat → Place} {k : Nat} {new : Place}
    (h : ∀ n k t, place n = .taken t → place k = .taken t → n = k)
    (hfree : ∀ t, new = .taken t → ∀ n, place n ≠ .taken t) (i j t : Nat)
    (hi : Function.update place k new i = .taken t)
    (hj : Function.update place k new j = .taken t) : i = j := by
  by_cases hik : i = k <;> by_cases hjk : j = k
  · rw [hik, hjk]
  · rw [hik, Function.update_self] at hi
    rw [Function.update_of_ne hjk] at hj
    exact absurd hj (hfree t hi j)
  · rw [hjk, Function.update_self] at hj
    rw [Function.update_of_ne hik] at hi
    exact absurd hi (hfree t hj i)
  · rw [Function.update_of_ne hik] at hi
    rw [Function.update_of_ne hjk] at hj
    exact h i j t hi hj

theorem Change.single (hc : Change w a w') (hw : w.Sound me) (hs : w.Single) : w'.Single := by
  cases hc with
  | make => exact single_update hs (by simp)
  | discard => exact single_update hs (by simp)
  | enqueue => exact single_update hs (by simp)
  | take _ _ hfree =>
      refine single_update hs ?_
      intro t ht
      cases ht
      exact hfree
  | @pop _ j inlet c queue _ hj hq =>
      refine single_update hs ?_
      intro t ht
      cases ht
      -- Whatever waits in a queue has no task yet.
      obtain ⟨hcon, hl⟩ := hw.queued j inlet hj c (by rw [hq]; exact List.mem_cons_self)
      exact hw.place_ne_of_none (hw.no_task hcon (by rw [hl]; simp))
  | _ => exact hs

theorem single_run (T : Transport σ) (hw : w.Sound me) (hs : w.Single) (acts : List (Act σ)) :
    (w.run T acts).Single := by
  induction acts generalizing w with
  | nil => exact hs
  | cons a rest ih =>
      have hc := act_change T hw a
      exact ih (hc.sound hw) (hc.single hw hs)

/-- All hand-overs to engines, in their order: which connection, to which
identity, and with which metric. -/
def handedOver (w : World σ) : List (Nat × Identity × UInt8) :=
  w.deeds.filterMap fun d => d.2.handOver?.map (d.1, ·)

/-- A world in which a connection is used, and one in which it is not, differ in
nothing else. -/
structure Apart (n : Nat) (full rest : World σ) : Prop where
  /-- The connection is in no queue and with no task, -/
  unused : rest.Unused n
  /-- and all that the links share is the same: the registry with its entries and
  the signals that have fired, settings, clock and stop. -/
  node : rest.manager.toNode = full.manager.toNode
  /-- The same connections were handed over, in the same order and in the same
  way; -/
  handedOver : rest.handedOver = full.handedOver
  /-- and all that the other handlers did is on record in the same order. -/
  deeds : rest.deeds = full.deeds.filter (·.1 ≠ n)
  /-- The other connections are in the same hands, -/
  place : ∀ k, k ≠ n → rest.place k = full.place k
  /-- the same octets have passed and are on their way on them, -/
  wire : ∀ k, k ≠ n → rest.wire? k = full.wire? k
  /-- all tasks but that of the connection are at the same point, -/
  task : ∀ t, full.place n ≠ .taken t →
    rest.manager.tasks.find? t = full.manager.tasks.find? t
  /-- and the other links have the same outcomes. -/
  outcome : ∀ k, k ≠ n → rest.outcome? k = full.outcome? k

/-- Worlds side by side differ in nothing that can be seen. -/
theorem Beside.apart (h : Beside n w w') (hw : w.Sound me) (hw' : w'.Sound me) (hs : w.Single)
    (hj : ¬ w.Joined n) : Apart n w w' := by
  obtain ⟨htally, hu⟩ := h
  have hdeeds : w'.deeds = w.deeds.filter (·.1 ≠ n) := by
    rw [← htally.deeds, List.filter_eq_self.mpr]
    intro d hd
    refine decide_eq_true fun hdn => ?_
    have hin : d.2 ∈ w'.deedsOf n := mem_deedsOf.mpr (hdn ▸ hd)
    rw [(hw'.idle n hu.not_taken).1] at hin
    cases hin
  have htask : ∀ t, w.place n ≠ .taken t →
      w'.manager.tasks.find? t = w.manager.tasks.find? t := htally.tasks
  refine ⟨hu, htally.toNode, ?_, hdeeds, htally.place, fun k hk => htally.wire? hk, htask, ?_⟩
  · -- A link that did not join was not handed over.
    unfold World.handedOver
    rw [hdeeds, List.filterMap_filter]
    refine List.filterMap_congr ?_
    rintro ⟨k, d⟩ hd
    split
    · rfl
    · next hk =>
        have hkn : k = n := by simpa using hk
        cases hover : d.handOver? with
        | none => simp
        | some party =>
            refine absurd (hw.joined_of_kept ?_) hj
            cases d <;> cases hover
            exact ⟨_, _, mem_deedsOf.mpr (hkn ▸ hd)⟩
  · intro k hk
    unfold outcome?
    rw [htally.place k hk]
    split
    · next t hp => rw [htask t fun hn => hk (hs k n t hp hn)]
    · rfl

theorem without_append (T : Transport σ) (n : Nat) (w : World σ) (l l' : List (Act σ)) :
    without T n w (l ++ l') = without T n w l ++ without T n (w.run T l) l' := by
  induction l generalizing w with
  | nil => rfl
  | cons a rest ih =>
      show leaveOut T n w a ++ without T n (w.act T a) (rest ++ l') = _
      rw [ih, ← List.append_assoc]
      rfl

/-- A point of the run that is left is what is left of a point of the full
run. -/
theorem exists_of_prefix_without (T : Transport σ) (w : World σ) {acts point : List (Act σ)}
    (hp : point <+: without T n w acts) :
    ∃ before, before <+: acts ∧ without T n w before = point := by
  induction acts generalizing w point with
  | nil => exact ⟨[], List.prefix_rfl, (List.prefix_nil.mp hp).symm⟩
  | cons a rest ih =>
      have hcons : without T n w (a :: rest) = leaveOut T n w a ++ without T n (w.act T a) rest :=
        rfl
      -- The point is before this act, or what follows it is a point of the rest.
      have hlater : ∀ {point' : List (Act σ)}, point' <+: without T n (w.act T a) rest →
          point = leaveOut T n w a ++ point' →
          ∃ before, before <+: a :: rest ∧ without T n w before = point := by
        intro point' hp' he
        obtain ⟨before, hbefore, hleft⟩ := ih (w.act T a) hp'
        refine ⟨a :: before, (List.prefix_cons_inj a).mpr hbefore, ?_⟩
        rw [he, ← hleft]
        rfl
      rw [hcons] at hp
      rcases leaveOut_cases T n w a with hnone | ⟨b, hone⟩
      · rw [hnone] at hp hlater
        exact hlater hp rfl
      · rw [hone] at hp hlater
        cases point with
        | nil => exact ⟨[], List.nil_prefix, rfl⟩
        | cons b' point' =>
            obtain ⟨rfl, hp'⟩ := List.cons_prefix_cons.mp hp
            exact hlater hp' rfl

/-- **A connection that does not register cannot be seen.**  Leave out of a run
of a node a connection that is not registered in it, and all that happens on
it.  Then the points of the run that is left are what is left of the points of
the full run, and at each of them the two worlds differ in nothing but that
connection: not in the registry and its signals, the hand-overs, the octets on
other connections, the state of other tasks, or the outcomes of other links. -/
theorem rejected_invisible (T : Transport σ) (me : Identity) (settings : Settings)
    (engine : Engine) (state : σ) :
    let w := start me settings engine state
    ∀ acts n, ¬ (w.run T acts).Joined n →
      (∀ before, before <+: acts →
        without T n w before <+: without T n w acts ∧
        Apart n (w.run T before) (w.run T (without T n w before))) ∧
      ∀ point, point <+: without T n w acts →
        ∃ before, before <+: acts ∧ without T n w before = point := by
  intro w acts n hj
  have hw : w.Sound me := sound_start me settings engine state
  have hs : w.Single := by
    intro n k t hn
    cases hn
  constructor
  · rintro before ⟨after, rfl⟩
    have hjb : ¬ (w.run T before).Joined n := by
      rintro ⟨e, he⟩
      rw [run_append] at hj
      exact hj ⟨e, (deedsOf_run (hw.run T before) after n).subset he⟩
    have hbeside : Beside n (w.run T before) (w.run T (without T n w before)) :=
      Beside.run ⟨.refl n w, .inl rfl⟩ T hw hw hjb
    refine ⟨?_, hbeside.apart (hw.run T before) (hw.run T _) (single_run T hw hs before) hjb⟩
    rw [without_append]
    exact List.prefix_append _ _
  · intro point hp
    exact exists_of_prefix_without T w hp

/-! ## §7. A stranger beside a peer. -/

/-- A stranger comes in beside a peer, and does not speak the protocol. -/
def strangerBeside : List (Act Script) :=
  [.make .tcp "peer" "near" "far" 1024 {}, .make .tcp "stranger" "near" "away" 1024 {},
    .accept 0 false, .accept 1 false, .remote 1 (.write (List.replicate frameLength 0xff))] ++
    List.replicate 4 (.task 0) ++ List.replicate 12 (.task 1) ++
    [.remote 0 (.write (Frame.own (.replicate 0xbb) 3).encode)] ++ List.replicate 5 (.task 0)

/-- The stranger is turned away, and the peer is handed over as it would be
without the stranger. -/
theorem rejected_invisible_stranger :
    (scriptedNode.run Script.transport strangerBeside).outcome? 1 ≠ none ∧
    ¬ (scriptedNode.run Script.transport strangerBeside).Joined 1 ∧
    Apart 1 (scriptedNode.run Script.transport strangerBeside)
      (scriptedNode.run Script.transport
        (without Script.transport 1 scriptedNode strangerBeside)) ∧
    (without Script.transport 1 scriptedNode strangerBeside).length = 13 ∧
    (scriptedNode.run Script.transport
      (without Script.transport 1 scriptedNode strangerBeside)).handedOver =
      [(0, .replicate 0xbb, 3)] := by
  have hds : ((scriptedNode.run Script.transport strangerBeside).deedsOf 1).all
      (!·.isQuestion) = true := by decide +kernel
  have hj : ¬ (scriptedNode.run Script.transport strangerBeside).Joined 1 := by
    rintro ⟨e, he⟩
    cases List.all_eq_true.mp hds _ he
  have h := rejected_invisible Script.transport (.replicate 0xaa) {} .collect {}
  exact ⟨by decide +kernel, hj, ((h strangerBeside 1 hj).1 _ List.prefix_rfl).2,
    by decide +kernel, by decide +kernel⟩

end LinkLayer.World

/-
  LinkLayer.Proofs.World.Same
  ───────────────────────────
  **WORLDS THAT ARE THE SAME.**

  `Same w w'` says that nothing distinguishes two worlds but what was
  reported on the way there: they have the same registry, settings and clock,
  the same connections in the same hands, the same octets on all wires, and
  all tasks are at the same point.

    • `Tally.same` — two worlds that differ in one connection at most are the
      same if they do not differ in that one either,
    • `Same.act`, `Same.run` — whatever happens next, they stay the same.

  A tally looks at one connection.  Same worlds are tallied at a connection
  that is not made yet, and that no act can use.
-/
import LinkLayer.Proofs.World.Tally

namespace LinkLayer

/-! ## §1. Inlets. -/

/-- Inlets in which a connection does not wait are the same without it. -/
theorem Manager.AlikeBut.inlets_eq {σ : Type} {n : Nat} {m m' : Manager σ} (h : AlikeBut n m m')
    (hd : m.inlets.numbers.Nodup) (hq : ¬ m.Queued n) (hd' : m'.inlets.numbers.Nodup)
    (hq' : ¬ m'.Queued n) : m'.inlets = m.inlets := by
  have hself : ∀ {m : Manager σ}, m.inlets.numbers.Nodup → ¬ m.Queued n →
      m.inlets.map (Inlet.without n) = m.inlets := by
    intro m hd hq
    show (⟨m.inlets.rows.map _⟩ : Table Inlet) = ⟨m.inlets.rows⟩
    congr 1
    refine (List.map_congr_left ?_).trans (List.map_id _)
    rintro ⟨j, inlet⟩ hrow
    have hj := Table.find?_of_mem hd hrow
    have hqueue : inlet.queue.filter (·.wire ≠ n) = inlet.queue := by
      refine List.filter_eq_self.mpr fun c hc => decide_eq_true fun he => ?_
      exact hq ⟨j, inlet, hj, List.mem_map.mpr ⟨c, hc, he⟩⟩
    show (j, inlet.without n) = (j, inlet)
    rw [Inlet.without, hqueue]
  rw [← hself hd hq, ← hself hd' hq', h.inlets]

namespace World

variable {σ : Type} {T : Transport σ} {me : Identity} {w w' : World σ} {a : Act σ} {n t : Nat}

/-! ## §2. Same worlds. -/

/-- Nothing distinguishes two worlds but what was reported. -/
structure Same (w w' : World σ) : Prop where
  node : w'.manager.toNode = w.manager.toNode
  transport : w'.manager.transport = w.manager.transport
  listeners : w'.manager.listeners = w.manager.listeners
  inlets : w'.manager.inlets = w.manager.inlets
  wire : ∀ k, w'.wire? k = w.wire? k
  task : ∀ t, w'.manager.tasks.find? t = w.manager.tasks.find? t
  next : w'.next = w.next
  connection : w'.connection = w.connection
  place : w'.place = w.place
  deeds : w'.deeds = w.deeds

/-- In same worlds, links have the same outcomes. -/
theorem Same.outcome (h : Same w w') (k : Nat) : w'.outcome? k = w.outcome? k := by
  unfold outcome?
  rw [h.place]
  split
  · rw [h.task]
  · rfl

/-- Same worlds differ in no connection. -/
theorem Same.tally (h : Same w w') (n : Nat) : Tally n w w' where
  manager := ⟨h.node, h.transport, h.listeners, by rw [h.inlets], fun k _ => h.wire k⟩
  next := h.next
  connection := h.connection
  place := fun _ _ => by rw [h.place]
  deeds := by rw [h.deeds]
  tasks := fun t _ => h.task t

/-- **Two worlds that do not even differ in the one connection are the same.** -/
theorem Tally.same (h : Tally n w w') (hw : w.Sound me) (hw' : w'.Sound me)
    (hq : ¬ w.manager.Queued n) (hq' : ¬ w'.manager.Queued n) (hwire : w'.wire? n = w.wire? n)
    (hplace : w'.place n = w.place n) (hdeeds : w'.deeds = w.deeds)
    (htask : ∀ t, w.place n = .taken t → w'.manager.tasks.find? t = w.manager.tasks.find? t) :
    Same w w' where
  node := h.toNode
  transport := h.manager.transport
  listeners := h.manager.listeners
  inlets := h.manager.inlets_eq hw.inlets hq hw'.inlets hq'
  wire := by
    intro k
    by_cases hk : k = n
    · rw [hk, hwire]
    · exact h.wire? hk
  task := by
    intro t
    by_cases ht : w.place n = .taken t
    · exact htask t ht
    · exact h.tasks t ht
  next := h.next
  connection := h.connection
  place := by
    funext k
    by_cases hk : k = n
    · rw [hk, hplace]
    · exact h.place k hk
  deeds := hdeeds

/-! ## §3. Whatever happens next. -/

/-- A connection that is not made yet is in no queue. -/
theorem Sound.not_queued_of_fresh (hw : w.Sound me) (hn : w.next ≤ n) :
    ¬ w.manager.Queued n := by
  rintro ⟨j, inlet, hj, hin⟩
  obtain ⟨c, hc, rfl⟩ := List.mem_map.mp hin
  have hcon := (hw.queued j inlet hj c hc).1
  rw [(hw.fresh c.wire hn).1] at hcon
  cases hcon

/-- Worlds that do not differ in any connection that was made are the same. -/
theorem Tally.same_of_fresh (h : Tally n w w') (hw : w.Sound me) (hw' : w'.Sound me)
    (hn : w.next ≤ n) : Same w w' := by
  have hn' : w'.next ≤ n := h.next ▸ hn
  have hplace := (hw.fresh n hn).2
  have hplace' := (hw'.fresh n hn').2
  have hidle : ∀ {v : World σ}, v.Sound me → v.place n = .unmade →
      v.deeds.filter (·.1 ≠ n) = v.deeds := by
    intro v hv hp
    refine List.filter_eq_self.mpr fun d hd => decide_eq_true fun hdn => ?_
    have hin : d.2 ∈ v.deedsOf n := mem_deedsOf.mpr (hdn ▸ hd)
    rw [(hv.idle n (by rw [hp]; simp)).1] at hin
    cases hin
  refine h.same hw hw' (hw.not_queued_of_fresh hn) (hw'.not_queued_of_fresh hn') ?_ ?_ ?_ ?_
  · rw [hw.unwired n hn, hw'.unwired n hn']
  · rw [hplace, hplace']
  · rw [← hidle hw hplace, ← hidle hw' hplace', h.deeds]
  · intro t ht
    rw [hplace] at ht
    cases ht

/-- Who calls for a connection that is not loose does nothing. -/
theorem withLoose_of_held (hp : w.place n ≠ .loose) (f : Connection → World σ) :
    w.withLoose n f = w := by
  unfold withLoose
  split
  · next hloose _ => exact absurd hloose hp
  · rfl

/-- **Only its task and its remote end do anything with a connection that is
neither loose nor in a queue.** -/
theorem act_of_held (T : Transport σ) (hp : w.place n ≠ .loose) (hq : ¬ w.manager.Queued n)
    (ha : ¬ Foreign T n w a) (hr : ∀ what, a ≠ .remote n what)
    (ht : ∀ t, w.place n = .taken t → ¬ Concerns n t a) : w.act T a = w := by
  cases a with
  | discard k =>
      obtain rfl : k = n := not_not.mp ha
      exact withLoose_of_held hp _
  | run k incoming forced options =>
      obtain rfl : k = n := not_not.mp ha
      exact withLoose_of_held hp _
  | accept k forced =>
      obtain rfl : k = n := not_not.mp ha
      exact withLoose_of_held hp _
  | deliver spec k =>
      obtain rfl : k = n := not_not.mp ha
      exact withLoose_of_held hp _
  | remote k what =>
      obtain rfl : k = n := not_not.mp ha
      exact absurd rfl (hr what)
  | inlet j =>
      -- What an inlet hands on waits there.
      obtain ⟨c, hc, rfl⟩ : ∃ c ∈ w.popped? j, c.wire = n := by
        simpa only [Foreign, not_forall, not_not, exists_prop] using ha
      exact absurd (queued_of_popped hc) hq
  | serve j =>
      obtain ⟨c, hc, rfl⟩ : ∃ c ∈ (w.flag false).popped? j, c.wire = n := by
        simpa only [Foreign, not_forall, not_not, exists_prop] using ha
      have hqueued : (w.flag false).manager.Queued c.wire := queued_of_popped hc
      exact absurd hqueued hq
  | task t =>
      -- A dial does not get the connection.
      have hother : w.place n ≠ .taken t := fun hn => ht t hn (.inl rfl)
      obtain ⟨c, hc, rfl⟩ : ∃ c ∈ w.dialled? T t, c.wire = n := by
        simpa [Foreign, hother] using ha
      show w.taskMove T t = w
      unfold taskMove
      cases w.manager.stepTask T t with
      | none => rfl
      | some m =>
          rw [show w.dialled? T t = some c from hc]
          exact withLoose_of_held hp _
  | tunnel t what => exact absurd (.inr (.inr (.inl ⟨what, rfl⟩))) (ht t (not_not.mp ha))
  | cancel t => exact absurd (.inr (.inl rfl)) (ht t (not_not.mp ha))
  | _ => exact absurd trivial ha

/-- Nothing can be done with a connection that is not made yet. -/
theorem act_of_fresh (T : Transport σ) (hw : w.Sound me) (hn : w.next ≤ n)
    (ha : ¬ Foreign T n w a) : w.act T a = w := by
  have hplace := (hw.fresh n hn).2
  by_cases hr : ∃ what, a = .remote n what
  · -- There is no wire to act on.
    obtain ⟨what, rfl⟩ := hr
    have hwires : w.manager.wires.modify n what.apply = w.manager.wires :=
      Table.modify_of_none (hw.unwired n hn) _
    have hmanager : w.manager.onWire n what.apply = w.manager := by
      unfold Manager.onWire
      rw [hwires]
    show { w with manager := w.manager.onWire n what.apply } = w
    rw [hmanager]
  · refine act_of_held T (by simp [hplace]) (hw.not_queued_of_fresh hn) ha (not_exists.mp hr) ?_
    intro t ht
    cases hplace.symm.trans ht

/-- What an act is about is the same in two worlds with the same inlets that do not
differ in who has the connection. -/
theorem Tally.foreign_of (h : Tally n w w') (hi : w'.manager.inlets = w.manager.inlets)
    (hp : w'.place n = w.place n) (ha : Foreign T n w' a) : Foreign T n w a := by
  cases a with
  | inlet j =>
      have hpop : w'.popped? j = w.popped? j := by
        unfold popped?
        rw [hi, h.manager.isStopped]
      rw [Foreign, hpop] at ha
      exact ha
  | serve j =>
      have hpop : (w'.flag false).popped? j = (w.flag false).popped? j := by
        show (w'.manager.inlets.find? j).bind _ = (w.manager.inlets.find? j).bind _
        rw [hi]
        rfl
      rw [Foreign, hpop] at ha
      exact ha
  | task t =>
      obtain ⟨hother, ha⟩ := ha
      have hdial : w'.dialled? T t = w.dialled? T t := by
        unfold dialled?
        rw [h.tasks t (hp ▸ hother), h.manager.transport]
      exact ⟨hp ▸ hother, hdial ▸ ha⟩
  | tunnel t what =>
      rw [Foreign, hp] at ha
      exact ha
  | cancel t =>
      rw [Foreign, hp] at ha
      exact ha
  | _ => exact ha

/-- **Same worlds stay the same.** -/
theorem Same.act (h : Same w w') (T : Transport σ) (hw : w.Sound me) (hw' : w'.Sound me)
    (a : Act σ) : Same (w.act T a) (w'.act T a) := by
  have hw₁ := (act_change T hw a).sound hw
  have hw₁' := (act_change T hw' a).sound hw'
  -- A connection that is not made before nor after the act.
  obtain ⟨n, hn, hn₁⟩ : ∃ n, w.next ≤ n ∧ (w.act T a).next ≤ n :=
    ⟨max w.next (w.act T a).next, Nat.le_max_left _ _, Nat.le_max_right _ _⟩
  have hn' : w'.next ≤ n := h.next ▸ hn
  by_cases ha : Foreign T n w a
  · have htally := (h.tally n).foreign T hw hw' (hw'.not_queued_of_fresh hn') ha
    exact htally.same_of_fresh hw₁ hw₁' hn₁
  · have ha' : ¬ Foreign T n w' a :=
      fun ha' => ha ((h.tally n).foreign_of h.inlets (congrFun h.place n) ha')
    rw [act_of_fresh T hw hn ha, act_of_fresh T hw' hn' ha']
    exact h

/-- **So they do over a whole run.** -/
theorem Same.run (h : Same w w') (T : Transport σ) (hw : w.Sound me) (hw' : w'.Sound me)
    (acts : List (Act σ)) : Same (w.run T acts) (w'.run T acts) := by
  induction acts generalizing w w' with
  | nil => exact h
  | cons a rest ih =>
      exact ih (h.act T hw hw' a) ((act_change T hw a).sound hw)
        ((act_change T hw' a).sound hw')

end World

end LinkLayer

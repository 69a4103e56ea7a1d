/-
  LinkLayer.Proofs.World.Fed
  ──────────────────────────
  **ONE WORLD BESIDE ANOTHER IN WHICH NOTHING COMES IN.**

  While a link waits for the peer's frame, its remote end can write the
  octets in any pieces, and its handler reads them in any pieces.  `cuts` says
  that an act is such a write or read.

  `Fed n t w b` says that the worlds `w` and `b` are the same, but that octets
  have come in on one connection in `w` and were read by its handler, and not
  in `b`.

    • `Fed.cut` — a piece comes in or is read in the first world only,
    • `Fed.common` — everything else happens in both, up to the move by which
      the handler goes on to the decision,
    • `Fed.same` — two worlds beside the same one are the same, once the same
      octets have come in and both handlers have read what they can.
-/
import LinkLayer.Proofs.Link.Recut
import LinkLayer.Proofs.World.Octets
import LinkLayer.Proofs.World.Same

namespace LinkLayer.World

variable {σ : Type} {T : Transport σ} {me : Identity} {w w' b b' : World σ} {a : Act σ}
  {n t : Nat}

/-! ## §1. Pieces. -/

/-- What the handler of a task has of the peer's frame, up to the move by which it
goes on to the decision. -/
def soFar? (w : World σ) (t : Nat) : Option Bytes := (w.handler? t).bind Handler.soFar?

/-- The task of a connection waits for the peer's frame. -/
def Receiving (w : World σ) (n t : Nat) : Prop :=
  ∃ h due got, w.handler? t = some h ∧ h.number = n ∧ h.phase = .receiving due got

/-- An act is about one piece of what comes in on a connection: the remote end
writes it, or the handler reads it. -/
def cuts (w : World σ) (n : Nat) : Act σ → Bool
  | .remote k (.write _) => k = n
  | .task t => (w.wire? n).any fun wire =>
      (w.handler? t).any fun h => h.number = n && h.reads wire
  | _ => false

/-! ## §2. A task and its connection. -/

/-- A task runs the handler of a connection that has a wire. -/
structure At (w : World σ) (n t : Nat) (origin : Origin) (h : Handler) (wire : Wire) : Prop where
  place : w.place n = .taken t
  task : w.manager.tasks.find? t = some ⟨origin, .handling h⟩
  wire : w.wire? n = some wire
  number : h.number = n

section

variable {origin : Origin} {h : Handler} {wire : Wire} (hat : w.At n t origin h wire)

include hat

theorem At.handler : w.handler? t = some h := handler?_of_find? hat.task

theorem At.soFar : w.soFar? t = h.soFar? := by
  rw [soFar?, hat.handler]
  rfl

theorem At.arrivedAt : w.arrivedAt n = wire.arrived := by
  rw [World.arrivedAt, hat.wire]
  rfl

theorem At.takenAt : w.takenAt n = wire.taken := by
  rw [World.takenAt, hat.wire]
  rfl

theorem At.cuts_task : w.cuts n (.task t) = h.reads wire := by
  simp [cuts, hat.handler, hat.wire, hat.number]

theorem At.found : w.wire? h.number = some wire := hat.number.symm ▸ hat.wire

/-- Stage and wire are as the phase demands. -/
theorem At.fit (hw : w.Sound me) : h.Staged ∧ h.Wired me wire := by
  obtain ⟨c, -, -, htends⟩ := hw.tends_on hat.handler hat.number hat.wire
  exact ⟨htends.staged, htends.wired⟩

/-- Acts of others leave them alone, -/
theorem At.aside (T : Transport σ) (hw : w.Sound me) (ha : ¬ Concerns n t a) :
    (w.act T a).At n t origin h wire := by
  have hc := act_change T hw a
  obtain ⟨htask, hwire, -⟩ := hc.aside hw hat.place ha
  exact ⟨hc.place hw hat.place, htask.trans hat.task, hwire.trans hat.wire, hat.number⟩

/-- the remote end acts on the wire, -/
theorem At.remote (T : Transport σ) (what : RemoteAct) :
    (w.act T (.remote n what)).At n t origin h (what.apply wire) := by
  refine ⟨hat.place, hat.task, ?_, hat.number⟩
  refine (wire?_onWire w n n what.apply).trans ?_
  rw [if_pos rfl, hat.wire]
  rfl

/-- and a move changes both. -/
theorem At.move (T : Transport σ) (hw : w.Sound me) {move : Handler.Move}
    (hm : h.step w.manager.toNode wire = some move) :
    (w.act T (.task t)).At n t origin move.handler move.wire ∧
      (w.act T (.task t)).deeds = w.deeds ++ (h.deeds w.manager.toNode move).map (n, ·) ∧
      (w.act T (.task t)).manager.registry = move.registry := by
  have ho : h.outcome? = none := by
    cases ho : h.outcome? with
    | none => rfl
    | some outcome =>
        rw [Handler.step, Handler.outcome?_eq_some.mp ho] at hm
        cases hm
  have hturn := Handler.step_turn (hat.fit hw).1 hm
  have hplace := (act_change T hw (.task t)).place hw hat.place
  have hact := act_task_eq T hat.task hat.found ho hm
  rw [hat.number] at hact
  rw [hact] at hplace ⊢
  refine ⟨⟨hplace, Table.find?_put_self _ _ _, Table.find?_put_self _ _ _, ?_⟩, rfl, rfl⟩
  exact hturn.link.2.trans hat.number

/-- A handler that has to wait does nothing. -/
theorem At.rest (T : Transport σ) (hs : h.soFar? ≠ none)
    (hm : h.step w.manager.toNode wire = none) : w.act T (.task t) = w := by
  refine act_task_of_waits T hat.task hat.found ?_ hm
  cases ho : h.outcome? with
  | none => rfl
  | some outcome =>
      rw [Handler.soFar?, Handler.outcome?_eq_some.mp ho] at hs
      exact absurd rfl hs

end

/-- Only the task of a connection reads from it. -/
theorem Sound.task_of_cuts (hw : w.Sound me) (hp : w.place n = .taken t) {s : Nat}
    (hc : w.cuts n (.task s) = true) : s = t := by
  simp only [cuts, Option.any_eq_true, Bool.and_eq_true, decide_eq_true_eq] at hc
  obtain ⟨-, -, h, hh, hn, -⟩ := hc
  exact hw.task_of_number hp hh hn

/-- There is no way back from the decision. -/
theorem soFar?_act (T : Transport σ) (hw : w.Sound me) (hp : w.place n = .taken t) (a : Act σ)
    (hs : w.soFar? t = none) : (w.act T a).soFar? t = none := by
  have hnone : ∀ h, w.handler? t = some h → h.soFar? = none := by
    intro h hh
    rw [soFar?, hh] at hs
    exact hs
  unfold soFar?
  cases hh' : (w.act T a).handler? t with
  | none => rfl
  | some h' =>
      rcases handler?_act T hw hp a hh' with hh | ⟨h, wire, move, hh, -, hturn, rfl⟩
      · exact hnone h' hh
      · exact hturn.soFar?_eq_none (hnone h hh)

theorem soFar?_run (T : Transport σ) (hw : w.Sound me) (hp : w.place n = .taken t)
    (acts : List (Act σ)) (hs : w.soFar? t = none) : (w.run T acts).soFar? t = none := by
  induction acts generalizing w with
  | nil => exact hs
  | cons a rest ih =>
      have hc := act_change T hw a
      exact ih (hc.sound hw) (hc.place hw hp) (soFar?_act T hw hp a hs)

/-! ## §3. Acts of others, in two worlds. -/

/-- Acts of others do the same to two worlds that differ in one connection. -/
theorem Tally.aside (h : Tally n w w') (T : Transport σ) (hw : w.Sound me) (hw' : w'.Sound me)
    (hp : w.place n = .taken t) (hp' : w'.place n = .taken t) (ha : ¬ Concerns n t a) :
    Tally n (w.act T a) (w'.act T a) := by
  have hq := hw.not_queued hp
  have hq' := hw'.not_queued hp'
  have hinlets := h.manager.inlets_eq hw.inlets hq hw'.inlets hq'
  by_cases hf : Foreign T n w a
  · exact h.foreign T hw hw' hq' hf
  · -- Whoever else wants the connection does not get it, on either side.
    have hr : ∀ what, a ≠ .remote n what :=
      fun what he => ha (.inr (.inr (.inr ⟨what, he⟩)))
    have hown : ∀ {v : World σ}, v.place n = .taken t → ∀ s, v.place n = .taken s →
        ¬ Concerns n s a := by
      intro v hv s hs
      cases hv.symm.trans hs
      exact ha
    have hf' : ¬ Foreign T n w' a :=
      fun hf' => hf (h.foreign_of hinlets (hp'.trans hp.symm) hf')
    rw [act_of_held T (by simp [hp]) hq hf hr (hown hp),
      act_of_held T (by simp [hp']) hq' hf' hr (hown hp')]
    exact h

/-- Acts of others put on record what is about others. -/
theorem deeds_aside (T : Transport σ) (hw : w.Sound me) (hp : w.place n = .taken t)
    (ha : ¬ Concerns n t a) :
    ∃ more, (w.act T a).deeds = w.deeds ++ more ∧ more.filter (·.1 ≠ n) = more := by
  rcases (act_change T hw a).deeds_cases with he | ⟨s, h, wire, move, rfl, hmoment⟩
  · exact ⟨[], he.trans (List.append_nil _).symm, rfl⟩
  · refine ⟨_, hmoment.deeds, List.filter_eq_self.mpr fun d hd => decide_eq_true ?_⟩
    obtain ⟨deed, -, rfl⟩ := List.mem_map.mp hd
    intro hn
    exact ha (.inl (congrArg Act.task (hw.task_of_number hp hmoment.handler hn)))

/-- They put the same on record in both worlds. -/
theorem Tally.deeds_aside (h : Tally n (w.act T a) (w'.act T a)) (hw : w.Sound me)
    (hw' : w'.Sound me) (hp : w.place n = .taken t) (hp' : w'.place n = .taken t)
    (ha : ¬ Concerns n t a) (hd : w'.deeds = w.deeds) :
    (w'.act T a).deeds = (w.act T a).deeds := by
  obtain ⟨more, he, hmore⟩ := World.deeds_aside T hw hp ha
  obtain ⟨more', he', hmore'⟩ := World.deeds_aside T hw' hp' ha
  have hfilter := h.deeds
  rw [he, he', hd, List.filter_append, List.filter_append, hmore, hmore'] at hfilter
  rw [he, he', hd, List.append_cancel_left hfilter]

/-! ## §4. A world beside one in which nothing comes in. -/

/-- The same world twice, but in the second one some octets have not come in on a
connection, and the handler has read none. -/
structure Fed (n t : Nat) (w b : World σ) : Prop where
  tally : Tally n w b
  deeds : b.deeds = w.deeds
  row : ∃ origin h wire queued taken, b.At n t origin h wire ∧
    w.At n t origin (h.resume taken) (wire.recut queued taken) ∧ h.soFar? = some [] ∧
    (wire.recut queued taken).Within

theorem Fed.place (h : Fed n t w b) : w.place n = .taken t ∧ b.place n = .taken t := by
  obtain ⟨_, _, _, _, _, hb, hw, -⟩ := h.row
  exact ⟨hw.place, hb.place⟩

/-- Acts of others. -/
theorem Fed.aside (h : Fed n t w b) (T : Transport σ) (hw : w.Sound me) (hb : b.Sound me)
    (ha : ¬ Concerns n t a) : Fed n t (w.act T a) (b.act T a) := by
  obtain ⟨hp, hp'⟩ := h.place
  have htally := h.tally.aside T hw hb hp hp' ha
  refine ⟨htally, htally.deeds_aside hw hb hp hp' ha h.deeds, ?_⟩
  obtain ⟨origin, handler, wire, queued, taken, hbare, hfed, hs, hwithin⟩ := h.row
  exact ⟨origin, handler, wire, queued, taken, hbare.aside T hb ha, hfed.aside T hw ha, hs, hwithin⟩

/-- What the remote end writes is on its way in. -/
theorem apply_write_recut (wire : Wire) (queued taken bs : Bytes) :
    ∃ queued', (RemoteAct.write bs).apply (wire.recut queued taken) = wire.recut queued' taken := by
  unfold RemoteAct.apply Wire.remoteWrite
  dsimp only
  split
  · exact ⟨queued, rfl⟩
  · exact ⟨_, rfl⟩

/-- Whatever else the remote end does has nothing to do with what is on its way
in. -/
theorem apply_recut (wire : Wire) (queued taken : Bytes) {what : RemoteAct}
    (hwhat : ∀ bs, what ≠ .write bs) :
    what.apply (wire.recut queued taken) = (what.apply wire).recut queued taken := by
  cases what with
  | write bs => exact absurd rfl (hwhat bs)
  | _ => rfl

/-- **A piece comes in or is read in the first world only.** -/
theorem Fed.cut (h : Fed n t w b) (T : Transport σ) (hw : w.Sound me)
    (hc : w.cuts n a = true) (hs : (w.act T a).soFar? t ≠ none) : Fed n t (w.act T a) b := by
  obtain ⟨origin, handler, wire, queued, taken, hbare, hfed, hnone, hwithin⟩ := h.row
  have hplace := fun s => (act_change T hw a).place (t := s) hw (n := n)
  have hdeals := act_deals T hw hfed.place a
  cases a with
  | remote k what =>
      cases what with
      | write bs =>
          obtain rfl : k = n := by simpa [cuts] using hc
          obtain ⟨queued', hwire⟩ := apply_write_recut wire queued taken bs
          have hfed' := hfed.remote T (.write bs)
          rw [hwire] at hfed'
          have hown := hdeals.own hfed.place (.inr (.inr (.inr ⟨_, rfl⟩))) rfl
          exact ⟨h.tally.after hown hplace, h.deeds, origin, handler, wire, queued', taken, hbare,
            hfed', hnone, hwithin⟩
      | _ => cases hc
  | task s =>
      obtain rfl := hw.task_of_cuts hfed.place hc
      rw [hfed.cuts_task] at hc
      obtain ⟨hstaged, hwired⟩ := hfed.fit hw
      obtain ⟨due, got, hp, -⟩ := Handler.receiving_of_reads hstaged hc
      have hgot : taken = got := hwired.taken_of_soFar (by rw [Handler.soFar?, hp])
      subst hgot
      cases hm : (handler.resume taken).step w.manager.toNode (wire.recut queued taken) with
      | none =>
          rw [hfed.rest T (by simp [Handler.soFar?, hp]) hm]
          exact h
      | some move =>
          -- It has not gone on, so the move was a read.
          obtain ⟨hfed', hdeeds, hregistry⟩ := hfed.move T hw hm
          rw [hfed'.soFar] at hs
          obtain ⟨bs, wire', hl, hread, rfl⟩ := (Handler.step_turn hstaged hm).reads_on hp hs
          obtain ⟨queued', rfl⟩ : ∃ queued', wire' = wire.recut queued' (taken ++ bs) :=
            ⟨_, Wire.recut_of_read hread⟩
          have hown := hdeals.own hfed.place (.inl rfl) hregistry
          refine ⟨h.tally.after hown hplace, ?_, origin, handler, wire, queued', taken ++ bs,
            hbare, ?_, hnone, hwithin.read hread⟩
          · rw [hdeeds, h.deeds]
            simp [Handler.deeds, hp, hl]
          · rw [Handler.resume_resume] at hfed'
            exact hfed'
  | _ => cases hc

/-- The remote end does anything else. -/
theorem Fed.remote (h : Fed n t w b) (T : Transport σ) {what : RemoteAct}
    (hwhat : ∀ bs, what ≠ .write bs) :
    Fed n t (w.act T (.remote n what)) (b.act T (.remote n what)) := by
  obtain ⟨origin, handler, wire, queued, taken, hbare, hfed, hnone, hwithin⟩ := h.row
  have hfed' := hfed.remote T what
  rw [apply_recut wire queued taken hwhat] at hfed'
  refine ⟨h.tally.onManager (h.tally.manager.onWire n what.apply) h.tally.tasks, h.deeds, origin,
    handler, what.apply wire, queued, taken, hbare.remote T what, hfed', hnone, ?_⟩
  cases what with
  | write bs => exact absurd rfl (hwhat bs)
  | _ => exact hwithin

/-- There is no engine yet. -/
theorem At.tunnel {origin : Origin} {h : Handler} {wire : Wire} (hat : w.At n t origin h wire)
    (T : Transport σ) (hs : h.soFar? ≠ none) (what : EngineAct) :
    w.act T (.tunnel t what) = w := by
  rw [act_tunnel_eq T hat.task hat.found]
  split
  · next entry session hp =>
      rw [Handler.soFar?, hp] at hs
      exact absurd rfl hs
  · rfl

/-- Whoever is cancelled needs no more. -/
theorem At.cancel {origin : Origin} {h : Handler} {wire : Wire} (hat : w.At n t origin h wire)
    (T : Transport σ) (hs : h.soFar? ≠ none) : (w.act T (.cancel t)).soFar? t = none := by
  have hbusy : h.isBusy = false := by
    unfold Handler.soFar? at hs
    unfold Handler.isBusy
    cases hp : h.phase <;> simp_all
  have hfind : (w.act T (.cancel t)).manager.tasks.find? t = some ⟨origin,
      .done ((h.cancel w.manager.toNode wire).handler.outcome?.getD .cancelled)⟩ := by
    rw [act_cancel_eq T hat.task hat.found, if_neg (by rw [hbusy]; simp)]
    exact Table.find?_put_self _ _ _
  have hdone := handler?_of_find? hfind
  rw [soFar?, hdone]
  rfl

/-- **As long as it does not receive, a handler makes the same move in both
worlds.** -/
theorem Fed.early (h : Fed n t w b) (T : Transport σ) (hw : w.Sound me) (hb : b.Sound me)
    (hr : ¬ b.Receiving n t) :
    Fed n t (w.act T (.task t)) (b.act T (.task t)) ∨
      ((w.act T (.task t)).soFar? t = none ∧ (b.act T (.task t)).soFar? t = none) := by
  obtain ⟨origin, handler, wire, queued, taken, hbare, hfed, hnone, hwithin⟩ := h.row
  have hearly : ∀ due got, handler.phase ≠ .receiving due got :=
    fun due got hp => hr ⟨handler, due, got, hbare.handler, hbare.number, hp⟩
  rw [Handler.resume_of_not_receiving hearly] at hfed
  have hsome : handler.soFar? ≠ none := by
    rw [hnone]
    simp
  have htunnel : ∀ entry session, handler.phase ≠ .tunnelling entry session := by
    intro entry session hp
    rw [Handler.soFar?, hp] at hnone
    cases hnone
  have hstep := Handler.step_recut w.manager.toNode wire hearly htunnel queued taken
  have hnode : b.manager.toNode = w.manager.toNode := h.tally.toNode
  cases hm : handler.step w.manager.toNode wire with
  | none =>
      rw [hm] at hstep
      rw [hfed.rest T hsome hstep, hbare.rest T hsome (hnode ▸ hm)]
      exact .inl h
  | some move =>
      rw [hm] at hstep
      have hmb : handler.step b.manager.toNode wire = some move := hnode ▸ hm
      obtain ⟨hfed', hdeeds, hregistry⟩ := hfed.move T hw hstep
      obtain ⟨hbare', hdeeds', hregistry'⟩ := hbare.move T hb hmb
      have hturn := Handler.step_turn (hbare.fit hb).1 hmb
      -- Either the handler needs no more, on both sides, or it has read nothing yet.
      by_cases hs : move.handler.soFar? = none
      · exact .inr ⟨hfed'.soFar.trans hs, hbare'.soFar.trans hs⟩
      · left
        have hempty : taken = [] := (hfed.fit hw).2.taken_of_soFar hnone
        have hnext := hturn.soFar?_of_early hnone hearly hs
        have hkept := hturn.registry_of_soFar hsome
        have hown := (act_deals T hw hfed.place (.task t)).own hfed.place (.inl rfl)
          (hregistry.trans (hkept.trans (congrArg Node.registry hnode)))
        have hown' := (act_deals T hb hbare.place (.task t)).own hbare.place (.inl rfl)
          (hregistry'.trans hkept)
        have hplace := fun s => (act_change T hw (.task t)).place (t := s) hw (n := n)
        have hplace' := fun s => (act_change T hb (.task t)).place (t := s) hb (n := n)
        -- The second world goes on from the first one's next point, and back.
        have hone := (h.tally.after hown hplace).symm (hbare.place.trans hfed'.place.symm)
        have htally := (hone.after hown' hplace').symm (hfed'.place.trans hbare'.place.symm)
        refine ⟨htally, ?_, origin, move.handler, move.wire, queued, [], hbare', ?_, hnext, ?_⟩
        · rw [hdeeds, hdeeds', h.deeds, hnode]
          rfl
        · rw [Handler.resume_eq_self hnext]
          rw [hempty] at hfed'
          exact hfed'
        · intro f _
          exact Nat.zero_le _

/-- A handler that receives, and does not read next, goes on to the decision or gives
up. -/
theorem Fed.ends (h : Fed n t w b) (T : Transport σ) (hw : w.Sound me)
    (hc : w.cuts n (.task t) = false) (hr : b.Receiving n t) :
    (w.act T (.task t)).soFar? t = none := by
  obtain ⟨origin, handler, wire, queued, taken, hbare, hfed, -⟩ := h.row
  obtain ⟨handler', due, got, hh', -, hp⟩ := hr
  cases hbare.handler.symm.trans hh'
  have hp' : (handler.resume taken).phase = .receiving due taken := by
    rw [Handler.resume_of_receiving hp]
  rw [hfed.cuts_task] at hc
  cases hm : (handler.resume taken).step w.manager.toNode (wire.recut queued taken) with
  | none =>
      rw [Handler.reads_of_waits hp' hm] at hc
      cases hc
  | some move =>
      rw [(hfed.move T hw hm).1.soFar]
      -- Only a read keeps it before the decision.
      by_contra hs
      obtain ⟨bs, wire', hl, hread, -⟩ := (Handler.step_turn (hfed.fit hw).1 hm).reads_on hp' hs
      have hreads := Handler.reads_of_read hp' hl fun reason hfail => by
        cases hread.symm.trans hfail
      rw [hreads] at hc
      cases hc

/-- **What is not about a piece happens in both worlds.** -/
theorem Fed.common (h : Fed n t w b) (T : Transport σ) (hw : w.Sound me) (hb : b.Sound me)
    (hc : w.cuts n a = false) (hr : a = .task t → ¬ b.Receiving n t) :
    Fed n t (w.act T a) (b.act T a) ∨
      ((w.act T a).soFar? t = none ∧ (b.act T a).soFar? t = none) := by
  obtain ⟨origin, handler, wire, queued, taken, hbare, hfed, hnone, -⟩ := h.row
  have hsome : handler.soFar? ≠ none := by
    rw [hnone]
    simp
  have hsome' := Handler.soFar?_resume hsome taken
  by_cases ha : Concerns n t a
  · rcases ha with rfl | rfl | ⟨what, rfl⟩ | ⟨what, rfl⟩
    · exact h.early T hw hb (hr rfl)
    · exact .inr ⟨hfed.cancel T hsome', hbare.cancel T hsome⟩
    · rw [hfed.tunnel T hsome', hbare.tunnel T hsome]
      exact .inl h
    · refine .inl (h.remote T ?_)
      rintro bs rfl
      simp [cuts] at hc
  · exact .inl (h.aside T hw hb ha)

/-! ## §5. The whole frame. -/

/-- While the frame comes in time, a piece does not end the wait. -/
theorem Fed.stays (h : Fed n t w b) (T : Transport σ) (hw : w.Sound me) (hc : w.cuts n a = true)
    (htime : ∀ h due got, w.handler? t = some h → h.phase = .receiving due got →
      w.manager.now < due ∨ frameLength ≤ (w.arrivedAt n).length)
    (hclosed : w.ClosedAt n → frameLength ≤ (w.arrivedAt n).length) :
    (w.act T a).soFar? t ≠ none := by
  obtain ⟨origin, handler, wire, queued, taken, hbare, hfed, hnone, -⟩ := h.row
  cases a with
  | remote k what =>
      cases what with
      | write bs =>
          obtain rfl : k = n := by simpa [cuts] using hc
          rw [(hfed.remote T (.write bs)).soFar]
          exact Handler.soFar?_resume (by simp [hnone]) taken
      | _ => cases hc
  | task s =>
      obtain rfl := hw.task_of_cuts hfed.place hc
      rw [hfed.cuts_task] at hc
      obtain ⟨hstaged, hwired⟩ := hfed.fit hw
      obtain ⟨due, got, hp, hl⟩ := Handler.receiving_of_reads hstaged hc
      have htaken : (wire.recut queued taken).taken = got :=
        hwired.taken_of_soFar (by rw [Handler.soFar?, hp])
      have hsome : (handler.resume taken).soFar? ≠ none := by simp [Handler.soFar?, hp]
      by_cases hq : (wire.recut queued taken).inbound.queued = []
      · -- What was read is all that has arrived, so more will come.
        have hlacks : ¬ frameLength ≤ (w.arrivedAt n).length := by
          rw [hfed.arrivedAt, Wire.arrived, htaken, hq, List.append_nil]
          exact Nat.not_le.mpr hl
        have hopen : (wire.recut queued taken).inbound.closed = false := by
          rw [← Bool.not_eq_true]
          exact fun hend => hlacks (hclosed ⟨_, hfed.wire, hend⟩)
        have hd := (htime _ due got hfed.handler hp).resolve_right hlacks
        rw [hfed.rest T hsome (Handler.step_of_empty hp hl hc hq hopen hd), hfed.soFar]
        exact hsome
      · obtain ⟨bs, wire', -, -, hm⟩ :=
          Handler.step_of_queued w.manager.toNode hp hl hc hq
        rw [(hfed.move T hw hm).1.soFar]
        exact Handler.soFar?_resume hsome _
  | _ => cases hc

/-- One more read, if the handler still lacks some of a frame that has come in. -/
theorem Fed.read (h : Fed n t w b) (T : Transport σ) (hw : w.Sound me)
    (hwhole : frameLength ≤ (w.arrivedAt n).length) (hc : w.cuts n (.task t) = true) :
    Fed n t (w.act T (.task t)) b ∧
      (w.takenAt n).length < ((w.act T (.task t)).takenAt n).length ∧
      (w.takenAt n).length < frameLength := by
  obtain ⟨origin, handler, wire, queued, taken, hbare, hfed, hnone, -⟩ := h.row
  have hreads := hc
  rw [hfed.cuts_task] at hreads
  obtain ⟨hstaged, hwired⟩ := hfed.fit hw
  obtain ⟨due, got, hp, hl⟩ := Handler.receiving_of_reads hstaged hreads
  have htaken : (wire.recut queued taken).taken = got :=
    hwired.taken_of_soFar (by rw [Handler.soFar?, hp])
  -- It lacks some of what has arrived, so that is still on the wire.
  have hq : (wire.recut queued taken).inbound.queued ≠ [] := by
    intro hq
    rw [hfed.arrivedAt, Wire.arrived, htaken, hq, List.append_nil] at hwhole
    exact absurd hl (Nat.not_lt.mpr hwhole)
  obtain ⟨bs, wire', hb, hread, hm⟩ :=
    Handler.step_of_queued w.manager.toNode hp hl hreads hq
  have hnext := (hfed.move T hw hm).1
  have hsome : (w.act T (.task t)).soFar? t ≠ none := by
    rw [hnext.soFar]
    exact Handler.soFar?_resume (by simp [Handler.soFar?, hp]) _
  refine ⟨h.cut T hw hc hsome, ?_, ?_⟩
  · rw [hfed.takenAt, hnext.takenAt, Wire.taken_read hread, List.length_append]
    exact Nat.lt_add_of_pos_right (List.length_pos_iff.mpr hb)
  · rw [hfed.takenAt, htaken]
    exact hl

/-- **A handler to which the whole frame has come has read it after a few moves,
or has done so before.** -/
theorem Fed.drain (h : Fed n t w b) (T : Transport σ) (hw : w.Sound me)
    (hwhole : frameLength ≤ (w.arrivedAt n).length) {m : Nat}
    (hm : frameLength - (w.takenAt n).length ≤ m) :
    ∃ k, k ≤ m ∧ (w.cuts n (.task t) = false → k = 0) ∧
      Fed n t (w.run T (List.replicate k (.task t))) b ∧
      (w.run T (List.replicate k (.task t))).arrivedAt n = w.arrivedAt n ∧
      (w.run T (List.replicate k (.task t))).cuts n (.task t) = false := by
  -- Every read brings the handler nearer to the whole frame.
  induction m generalizing w with
  | zero =>
      cases hc : w.cuts n (.task t) with
      | true =>
          have hlt := (h.read T hw hwhole hc).2.2
          omega
      | false => exact ⟨0, Nat.le_refl 0, fun _ => rfl, h, rfl, hc⟩
  | succ m ih =>
      cases hc : w.cuts n (.task t) with
      | true =>
          obtain ⟨hnext, hmore, hlt⟩ := h.read T hw hwhole hc
          have harrived : (w.act T (.task t)).arrivedAt n = w.arrivedAt n :=
            (arrivedAt_act T hw _).trans (List.append_nil _)
          obtain ⟨k, hk, -, hfed, harr, hdone⟩ :=
            ih hnext ((act_change T hw _).sound hw) (harrived ▸ hwhole) (by omega)
          exact ⟨k + 1, Nat.succ_le_succ hk, fun hnot => (Bool.noConfusion hnot), hfed,
            harr.trans harrived, hdone⟩
      | false => exact ⟨0, Nat.zero_le _, fun _ => rfl, h, rfl, hc⟩

/-- **Two worlds beside the same one, to which the same octets came, are the same
once both handlers have read what they can.** -/
theorem Fed.same (h : Fed n t w b) (h' : Fed n t w' b) (hw : w.Sound me) (hw' : w'.Sound me)
    (harrived : w'.arrivedAt n = w.arrivedAt n) (hc : w.cuts n (.task t) = false)
    (hc' : w'.cuts n (.task t) = false) : Same w w' := by
  obtain ⟨origin, handler, wire, queued, taken, hbare, hfed, hnone, hwithin⟩ := h.row
  obtain ⟨origin', handler', wire', queued', taken', hbare', hfed', -, hwithin'⟩ := h'.row
  -- The world beside them has one handler and one wire.
  obtain ⟨rfl, rfl⟩ : origin' = origin ∧ handler' = handler := by
    have htask := hbare'.task.symm.trans hbare.task
    simp only [Option.some.injEq, Task.mk.injEq, Activity.handling.injEq] at htask
    exact htask
  obtain rfl : wire' = wire := Option.some.inj (hbare'.wire.symm.trans hbare.wire)
  have hsome : handler'.soFar? ≠ none := by simp [hnone]
  -- Both have read equally many of the same octets.
  rw [hfed.cuts_task] at hc
  rw [hfed'.cuts_task] at hc'
  have hlength := Handler.length_of_not_reads (hfed.fit hw).1 (hfed.fit hw).2
    (Handler.soFar?_resume hsome taken) hwithin hc
  have hlength' := Handler.length_of_not_reads (hfed'.fit hw').1 (hfed'.fit hw').2
    (Handler.soFar?_resume hsome taken') hwithin' hc'
  rw [Handler.share_recut] at hlength hlength'
  rw [hfed.arrivedAt, hfed'.arrivedAt] at harrived
  -- So the same octets are cut at the same place.
  have hoctets : taken' ++ queued' = taken ++ queued := harrived
  obtain ⟨rfl, rfl⟩ := List.append_inj hoctets (hlength'.trans hlength.symm)
  have htally : Tally n w w' := by
    refine (h'.tally.symm (hbare.place.trans hfed'.place.symm)).after h.tally ?_
    intro s hs
    exact hfed.place.trans (hbare.place.symm.trans hs)
  refine htally.same hw hw' (hw.not_queued hfed.place) (hw'.not_queued hfed'.place)
    (hfed'.wire.trans hfed.wire.symm) (hfed'.place.trans hfed.place.symm)
    (h'.deeds.symm.trans h.deeds) ?_
  intro s hs
  cases hfed.place.symm.trans hs
  exact hfed'.task.trans hfed.task.symm

end LinkLayer.World

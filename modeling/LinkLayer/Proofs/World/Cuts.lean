/-
  LinkLayer.Proofs.World.Cuts
  ───────────────────────────
  **IT DOES NOT MATTER HOW THE FRAME IS CUT.**

  `uncut` is what is left of a run without the pieces that come in on one
  connection: neither their writes by the remote end nor their reads by the
  handler are in it.

    • `Pair` — one world beside another in which nothing came in on the
      connection, before a task has it (`Unread`) and after (`Fed`),
    • `Pair.calm`, `Pair.run` — a run stays beside what is left of it, so two
      runs of which the same is left stay beside each other,
    • `Meeting`, `meet` — two links to which the same octets came, in time, meet in
      the same world, and nothing that happens later distinguishes them.

  `no_octet_lost` puts this together with what the link and its engine read.
-/
import LinkLayer.Proofs.World.Fed
import LinkLayer.Proofs.World.Unread

namespace LinkLayer.World

open Stroke

variable {σ : Type} {T : Transport σ} {me : Identity} {w w' b : World σ} {a : Act σ} {n t : Nat}

/-! ## §1. What is left without the pieces. -/

/-- The acts of a run that are not about pieces of what comes in on a
connection. -/
def uncut (T : Transport σ) (n : Nat) (w : World σ) : List (Act σ) → List (Act σ)
  | [] => []
  | a :: rest => (if w.cuts n a then [] else [a]) ++ uncut T n (w.act T a) rest

theorem uncut_of_cuts (hc : w.cuts n a = true) (acts : List (Act σ)) :
    uncut T n w (a :: acts) = uncut T n (w.act T a) acts := by
  simp [uncut, hc]

theorem uncut_of_not_cuts (hc : w.cuts n a = false) (acts : List (Act σ)) :
    uncut T n w (a :: acts) = a :: uncut T n (w.act T a) acts := by
  simp [uncut, hc]

/-- A task has a connection, and has not gone on to the decision about the peer. -/
def Waits (w : World σ) (n : Nat) : Prop := ∃ t, w.place n = .taken t ∧ w.soFar? t ≠ none

/-- A task has a connection, and waits no more. -/
def Past (w : World σ) (n : Nat) : Prop := ∃ t, w.place n = .taken t ∧ w.soFar? t = none

theorem Past.not_waits (h : w.Past n) : ¬ w.Waits n := by
  obtain ⟨t, hp, hs⟩ := h
  rintro ⟨t', hp', hs'⟩
  cases hp.symm.trans hp'
  exact hs' hs

theorem Past.run (h : w.Past n) (T : Transport σ) (hw : w.Sound me) (acts : List (Act σ)) :
    (w.run T acts).Past n := by
  obtain ⟨t, hp, hs⟩ := h
  exact ⟨t, place_run hw hp acts, soFar?_run T hw hp acts hs⟩

/-- The time at which the link of a connection gives up waiting for the peer's
frame, once it receives. -/
def receivingUntil? (w : World σ) (n : Nat) : Option Nat :=
  match w.place n with
  | .taken t => (w.handler? t).bind fun h =>
      match h.phase with
      | .receiving due _ => some due
      | _ => none
  | _ => none

/-- In a run, the frame has come in by the time at which its link would give
up. -/
def InTime (T : Transport σ) (n : Nat) (w : World σ) (acts : List (Act σ)) : Prop :=
  ∀ before, before <+: acts → ∀ due ∈ (w.run T before).receivingUntil? n,
    (w.run T before).manager.now < due ∨ frameLength ≤ ((w.run T before).arrivedAt n).length

/-! ## §2. Pairs. -/

/-- The octets on a wire's way in are others. -/
def refill (w : World σ) (n : Nat) (queued : Bytes) : World σ :=
  w.onManager (·.onWire n fun wire => wire.recut queued wire.taken)

/-- The same world twice, but in the second one nothing came in on a connection:
while no task has it, and while its task waits for the frame. -/
inductive Pair (n : Nat) (w b : World σ) : Prop
  | idle (queued : Bytes) : (∀ s, b.place n ≠ .taken s) → Same (b.refill n queued) w → Pair n w b
  | fed (t : Nat) : Fed n t w b → Pair n w b

theorem wire?_refill (w : World σ) (n : Nat) (queued : Bytes) (k : Nat) :
    (w.refill n queued).wire? k =
      if k = n then (w.wire? k).map fun wire => wire.recut queued wire.taken else w.wire? k :=
  wire?_onWire w n k _

theorem refill_sound (hw : w.Sound me) (n : Nat) (queued : Bytes) : (w.refill n queued).Sound me :=
  onWire_sound hw n fun _ => rfl

/-- A world differs from what it is with other octets in one connection. -/
theorem tally_refill (w : World σ) (n : Nat) (queued : Bytes) : Tally n (w.refill n queued) w where
  manager := (Manager.AlikeBut.refl n w.manager).onWire_left _
  next := rfl
  connection := rfl
  place := fun _ _ => rfl
  deeds := rfl
  tasks := fun _ _ => rfl

/-- Without a wire there is nothing to fill. -/
theorem refill_of_unwired (hn : w.wire? n = none) (queued : Bytes) : w.refill n queued = w := by
  have hwires : w.manager.wires.modify n (fun wire => wire.recut queued wire.taken) =
      w.manager.wires := Table.modify_of_none hn _
  exact congrArg (fun wires => { w with manager := { w.manager with wires } }) hwires

/-- A piece comes in on a connection that no task has. -/
theorem refill_write (T : Transport σ) {queued : Bytes} (hs : Same (b.refill n queued) w)
    (bs : Bytes) : ∃ queued', Same (b.refill n queued') (w.act T (.remote n (.write bs))) := by
  obtain ⟨queued', hfill⟩ : ∃ queued', ∀ wire, b.wire? n = some wire →
      (RemoteAct.write bs).apply (wire.recut queued wire.taken) =
        wire.recut queued' wire.taken := by
    cases hwire : b.wire? n with
    | none => exact ⟨[], fun wire hw => by cases hw⟩
    | some wire =>
        obtain ⟨queued', he⟩ := apply_write_recut wire queued wire.taken bs
        refine ⟨queued', fun wire' hw => ?_⟩
        cases hw
        exact he
  refine ⟨queued', hs.node, hs.transport, hs.listeners, hs.inlets, fun k => ?_, hs.task, hs.next,
    hs.connection, hs.place, hs.deeds⟩
  have hact : (w.act T (.remote n (.write bs))).wire? k =
      if k = n then (w.wire? k).map (RemoteAct.write bs).apply else w.wire? k :=
    wire?_onWire w n k _
  rw [hact, hs.wire k, wire?_refill, wire?_refill]
  by_cases hk : k = n
  · subst hk
    simp only [if_true, Option.map_map]
    exact Option.map_congr hfill
  · simp only [hk, if_false]

/-- **A task gets a connection on which octets have come in.** -/
theorem fed_of_taken {queued : Bytes} (hs : Same (b.refill n queued) w) (hb : b.Sound me)
    (hp : b.place n = .taken t) {h : Handler} (hh : b.handler? t = some h)
    (hfresh : h.phase = .fresh) : Fed n t w b := by
  have htally : Tally n w b := by
    have hback := (hs.tally n).symm (congrFun hs.place n)
    exact (tally_refill b n queued).after hback fun s hp' => (congrFun hs.place n).trans hp'
  have hn := (hb.number_of_place hp hh).1
  obtain ⟨origin, ht⟩ := find?_of_handler? hh
  -- A fresh handler has read nothing, so the wires differ in what waits on them only.
  obtain ⟨c, wire, -, hwire, -, htends⟩ := hb.tends hh
  have hwired := htends.wired
  rw [hn] at hwire
  simp only [Handler.Wired, hfresh] at hwired
  have htaken : wire.taken = [] := congrArg Wire.Record.taken hwired
  have hfound : w.wire? n = some (wire.recut queued []) := by
    rw [hs.wire n, wire?_refill, if_pos rfl, hwire, Option.map_some, htaken]
  refine ⟨htally, hs.deeds.symm, origin, h, wire, queued, [], ⟨hp, ht, hwire, hn⟩, ?_, ?_, ?_⟩
  · rw [Handler.resume_of_not_receiving (by simp [hfresh])]
    exact ⟨(congrFun hs.place n).trans hp, (hs.task t).trans ht, hfound, hn⟩
  · rw [Handler.soFar?, hfresh]
  · intro f _
    exact Nat.zero_le _

/-! ## §3. Acts. -/

/-- Nobody reads from a connection that no task has. -/
theorem Sound.write_of_cuts (hw : w.Sound me) (hn : ∀ s, w.place n ≠ .taken s)
    (hc : w.cuts n a = true) : ∃ bs, a = .remote n (.write bs) := by
  cases a with
  | remote k what =>
      cases what with
      | write bs =>
          obtain rfl : k = n := by simpa [cuts] using hc
          exact ⟨bs, rfl⟩
      | _ => cases hc
  | task s =>
      simp only [cuts, Option.any_eq_true, Bool.and_eq_true, decide_eq_true_eq] at hc
      obtain ⟨-, -, h, hh, rfl, -⟩ := hc
      exact absurd (hw.holders s h hh) (hn s)
  | _ => cases hc

/-- **A piece comes in or is read in the first world only.** -/
theorem Pair.cut (h : Pair n w b) (T : Transport σ) (hw : w.Sound me)
    (hc : w.cuts n a = true) (hp : ¬ (w.act T a).Past n) : Pair n (w.act T a) b := by
  cases h with
  | idle queued hn hs =>
      obtain ⟨bs, rfl⟩ := hw.write_of_cuts (hs.place ▸ hn) hc
      obtain ⟨queued', hs'⟩ := refill_write T hs bs
      exact .idle queued' hn hs'
  | fed t h =>
      refine .fed t (h.cut T hw hc fun hnone => hp ⟨t, ?_, hnone⟩)
      exact (act_change T hw a).place hw h.place.1

/-- What happens in the node happens whatever has come in on a connection that no
task has. -/
theorem refill_act (T : Transport σ) {queued : Bytes} (hn : ∀ s, b.place n ≠ .taken s)
    (hs : Same (b.refill n queued) w) (hw : w.Sound me) (hb : b.Sound me)
    (hc : w.cuts n a = false) :
    ∃ queued', Same ((b.act T a).refill n queued') (w.act T a) := by
  have hnext := hs.act T (refill_sound hb n queued) hw a
  by_cases hmake : n = b.next ∧ ∃ kind name source remote capacity faults,
      a = .make kind name source remote capacity faults
  · -- The connection is made, and nothing has come in.
    obtain ⟨hn', kind, name, source, remote, capacity, faults, rfl⟩ := hmake
    have hnone : b.wire? n = none := hb.unwired n (Nat.le_of_eq hn'.symm)
    rw [refill_of_unwired hnone] at hnext
    refine ⟨[], ?_⟩
    have hnew : (b.act T (.make kind name source remote capacity faults)).refill n [] =
        b.act T (.make kind name source remote capacity faults) := by
      have hput := Table.modify_put_self (t := b.manager.wires) hnone
        (f := fun wire => wire.recut [] wire.taken) (x := Wire.new capacity faults) rfl
      subst hn'
      exact congrArg (fun wires => { b.make kind name source remote capacity faults with
        manager := { b.manager with wires } }) hput
    rw [hnew]
    exact hnext
  · -- Any other act can be made before the octets are put on their way.
    refine ⟨queued, ?_⟩
    have hcomm : (b.refill n queued).act T a = (b.act T a).refill n queued := by
      refine act_onWire (f := fun wire => wire.recut queued wire.taken) hb hn (fun _ => rfl) T
        ?_ ?_
      · intro kind name source remote capacity faults he hn'
        exact hmake ⟨hn', kind, name, source, remote, capacity, faults, he⟩
      · rintro what rfl wire
        cases what with
        | write bs => simp [cuts] at hc
        | _ => rfl
    rw [← hcomm]
    exact hnext

/-- An act in a world in which no task has the connection. -/
theorem pair_of_idle (T : Transport σ) {queued : Bytes} (hn : ∀ s, b.place n ≠ .taken s)
    (hs : Same (b.refill n queued) w) (hw : w.Sound me) (hb : b.Sound me)
    (hc : w.cuts n a = false) : Pair n (w.act T a) (b.act T a) := by
  have hb' := (act_change T hb a).sound hb
  obtain ⟨queued', hs'⟩ := refill_act T hn hs hw hb hc
  by_cases ht : ∃ t, (b.act T a).place n = .taken t
  · -- Whoever gets the connection begins with a fresh handler.
    obtain ⟨t, hp⟩ := ht
    obtain ⟨h, hh, -, hfresh⟩ := (act_change T hb a).fresh_of_taken hn hp
    exact .fed t (fed_of_taken hs' hb' hp hh hfresh)
  · exact .idle queued' (not_exists.mp ht) hs'

/-- **What is not about a piece happens in both worlds.** -/
theorem Pair.common (h : Pair n w b) (T : Transport σ) (hw : w.Sound me) (hb : b.Sound me)
    (hc : w.cuts n a = false) (hr : ∀ s, a = .task s → ¬ b.Receiving n s) :
    Pair n (w.act T a) (b.act T a) ∨ ((w.act T a).Past n ∧ (b.act T a).Past n) := by
  cases h with
  | idle queued hn hs => exact .inl (pair_of_idle T hn hs hw hb hc)
  | fed t h =>
      rcases h.common T hw hb hc (hr t) with hnext | ⟨hpast, hpast'⟩
      · exact .inl (.fed t hnext)
      · exact .inr ⟨⟨t, (act_change T hw a).place hw h.place.1, hpast⟩,
          ⟨t, (act_change T hb a).place hb h.place.2, hpast'⟩⟩

/-- A handler that receives, and does not read next, waits no more then. -/
theorem Pair.ends (h : Pair n w b) (T : Transport σ) (hw : w.Sound me) (hb : b.Sound me) {s : Nat}
    (hc : w.cuts n (.task s) = false) (hr : b.Receiving n s) : (w.act T (.task s)).Past n := by
  obtain ⟨handler, due, got, hh, hn, hp⟩ := hr
  have hplace : b.place n = .taken s := hn ▸ hb.holders s handler hh
  cases h with
  | idle queued hfree hs => exact absurd hplace (hfree s)
  | fed t h =>
      cases h.place.2.symm.trans hplace
      exact ⟨s, (act_change T hw _).place hw h.place.1,
        h.ends T hw hc ⟨handler, due, got, hh, hn, hp⟩⟩

/-- While the frame comes in time, a piece does not end the wait. -/
theorem Pair.stays (h : Pair n w b) (T : Transport σ) (hw : w.Sound me)
    (hc : w.cuts n a = true) {acts : List (Act σ)} (ht : InTime T n w (a :: acts))
    (hwhole : frameLength ≤ ((w.run T (a :: acts)).arrivedAt n).length) :
    ¬ (w.act T a).Past n := by
  rintro ⟨t, hp, hs⟩
  cases h with
  | idle queued hn hsame =>
      -- A piece does not give the connection to a task.
      have hn' : ∀ s, w.place n ≠ .taken s := hsame.place ▸ hn
      obtain ⟨bs, rfl⟩ := hw.write_of_cuts hn' hc
      exact hn' t hp
  | fed s h =>
      have hplace := (act_change T hw a).place hw h.place.1
      cases hplace.symm.trans hp
      refine h.stays T hw hc ?_ ?_ hs
      · intro handler due got hh hphase
        exact ht [] List.nil_prefix due
          (by simp [receivingUntil?, World.run, h.place.1, hh, hphase])
      · intro hclosed
        -- Nothing more comes in, so the frame is there.
        rw [arrivedAt_run T hw, hclosed.writtenTo T hw h.place.1, List.append_nil] at hwhole
        exact hwhole

/-! ## §4. Runs. -/

/-- In a run in which nothing comes in, a handler that receives makes no move, and
it does not go on to the decision. -/
def Calm (T : Transport σ) (n : Nat) (b : World σ) (acts : List (Act σ)) : Prop :=
  (b.run T acts).Waits n ∧
    ∀ before s after, acts = before ++ .task s :: after → ¬ (b.run T before).Receiving n s

theorem Calm.head {acts : List (Act σ)} (h : Calm T n b (a :: acts)) (s : Nat) (ha : a = .task s) :
    ¬ b.Receiving n s := by
  subst ha
  exact h.2 [] s acts rfl

theorem Calm.tail {acts : List (Act σ)} (h : Calm T n b (a :: acts)) :
    Calm T n (b.act T a) acts := by
  refine ⟨h.1, ?_⟩
  intro before s after he
  exact h.2 (a :: before) s after (congrArg (a :: ·) he)

theorem Calm.cons {acts : List (Act σ)} (h : Calm T n (b.act T a) acts)
    (ha : ∀ s, a = .task s → ¬ b.Receiving n s) : Calm T n b (a :: acts) := by
  refine ⟨h.1, ?_⟩
  intro before s after he
  cases before with
  | nil => exact ha s (List.cons.inj he).1
  | cons c before =>
      obtain ⟨rfl, hrest⟩ := List.cons.inj he
      exact h.2 before s after hrest

/-- A task in two worlds of which one is fed waits in both. -/
theorem Fed.waits (h : Fed n t w b) : w.Waits n ∧ b.Waits n := by
  obtain ⟨origin, handler, wire, queued, taken, hbare, hfed, hnone, -⟩ := h.row
  have hsome : handler.soFar? ≠ none := by simp [hnone]
  exact ⟨⟨t, hfed.place, hfed.soFar ▸ Handler.soFar?_resume hsome taken⟩,
    ⟨t, hbare.place, hbare.soFar ▸ hsome⟩⟩

/-- A task that waits in the first world waits in the second. -/
theorem Pair.waits (h : Pair n w b) (hs : w.Waits n) : b.Waits n ∧ ∃ t, Fed n t w b := by
  obtain ⟨t, hp, hs⟩ := hs
  cases h with
  | idle queued hn hsame => exact absurd ((congrFun hsame.place n).symm.trans hp) (hn t)
  | fed s h => exact ⟨h.waits.2, s, h⟩

/-- **A run at whose end a link still waits stays beside what is left of it.** -/
theorem Pair.calm (h : Pair n w b) (T : Transport σ) (hw : w.Sound me) (hb : b.Sound me)
    {acts : List (Act σ)} (hs : (w.run T acts).Waits n) :
    Pair n (w.run T acts) (b.run T (uncut T n w acts)) ∧ Calm T n b (uncut T n w acts) := by
  -- By the acts of the run.  That its handler still waits at the end says of every act
  -- before that it does not end the wait.
  induction acts generalizing w b with
  | nil => exact ⟨h, (h.waits hs).1, fun before s after he => by cases before <;> cases he⟩
  | cons a rest ih =>
      have hw' := (act_change T hw a).sound hw
      have hp : ¬ (w.act T a).Past n := fun hp => (hp.run T hw' rest).not_waits hs
      cases hc : w.cuts n a with
      | true =>
          rw [uncut_of_cuts hc]
          exact ih (h.cut T hw hc hp) hw' hb hs
      | false =>
          have hr : ∀ s, a = .task s → ¬ b.Receiving n s := by
            rintro s rfl hreceives
            exact hp (h.ends T hw hb hc hreceives)
          have hnext := (h.common T hw hb hc hr).resolve_right fun hpast => hp hpast.1
          obtain ⟨hpair, hcalm⟩ := ih hnext hw' ((act_change T hb a).sound hb) hs
          rw [uncut_of_not_cuts hc]
          exact ⟨hpair, hcalm.cons hr⟩

/-- **A run in which the frame comes in time stays beside what is left of it, if that
is calm.** -/
theorem Pair.run (h : Pair n w b) (T : Transport σ) (hw : w.Sound me) (hb : b.Sound me)
    {acts : List (Act σ)} (hcalm : Calm T n b (uncut T n w acts)) (ht : InTime T n w acts)
    (hwhole : frameLength ≤ ((w.run T acts).arrivedAt n).length) :
    Pair n (w.run T acts) (b.run T (uncut T n w acts)) := by
  -- By the acts again.  Here a piece does not end the wait since it comes in time, and
  -- anything else does not since it does not in the other world.
  induction acts generalizing w b with
  | nil => exact h
  | cons a rest ih =>
      have hw' := (act_change T hw a).sound hw
      have ht' : InTime T n (w.act T a) rest := by
        intro before hbefore
        exact ht (a :: before) ((List.prefix_cons_inj a).mpr hbefore)
      cases hc : w.cuts n a with
      | true =>
          have hstays := h.stays T hw hc ht hwhole
          rw [uncut_of_cuts hc] at hcalm ⊢
          exact ih (h.cut T hw hc hstays) hw' hb hcalm ht' hwhole
      | false =>
          rw [uncut_of_not_cuts hc] at hcalm ⊢
          have hb' := (act_change T hb a).sound hb
          have hnext := (h.common T hw hb hc hcalm.head).resolve_right fun hpast =>
            (hpast.2.run T hb' _).not_waits hcalm.1
          exact ih hnext hw' hb' hcalm.tail ht' hwhole

/-- A world in which no task has a connection is beside itself. -/
theorem pair_start (me : Identity) (settings : Settings) (engine : Engine) (state : σ) (n : Nat) :
    Pair n (start me settings engine state) (start me settings engine state) := by
  refine .idle [] (fun s hs => ?_) ?_
  · cases hs
  · rw [refill_of_unwired rfl]
    exact ⟨rfl, rfl, rfl, rfl, fun _ => rfl, fun _ => rfl, rfl, rfl, rfl, rfl⟩

/-- Two runs meet after the task of a connection has made `k` moves in the one
and `k'` in the other. -/
structure Meeting (T : Transport σ) (w : World σ) (n t k k' : Nat) (acts acts' : List (Act σ)) :
    Prop where
  place : (w.run T acts).place n = .taken t
  /-- A few moves are enough, -/
  few : k ≤ frameLength ∧ k' ≤ frameLength
  /-- and none is needed if the handler does not read next. -/
  needless : ((w.run T acts).cuts n (.task t) = false → k = 0) ∧
    ((w.run T acts').cuts n (.task t) = false → k' = 0)
  /-- The handler is still before its decision then, -/
  waits : (w.run T (acts ++ List.replicate k (.task t))).Waits n
  /-- and the worlds are the same, whatever happens from there on: -/
  same : ∀ later,
    Same (w.run T (acts ++ List.replicate k (.task t) ++ later))
      (w.run T (acts' ++ List.replicate k' (.task t) ++ later))
  /-- all links have the same outcomes. -/
  outcome : ∀ later m,
    (w.run T (acts' ++ List.replicate k' (.task t) ++ later)).outcome? m =
      (w.run T (acts ++ List.replicate k (.task t) ++ later)).outcome? m

/-- **Runs that differ only in how the frame is cut meet.** -/
theorem meet (T : Transport σ) (hw : w.Sound me) (hstart : Pair n w w) {acts acts' : List (Act σ)}
    (hsame : uncut T n w acts' = uncut T n w acts) (hwaits : (w.run T acts).Waits n)
    (htime : InTime T n w acts')
    (harrived : (w.run T acts').arrivedAt n = (w.run T acts).arrivedAt n)
    (hwhole : frameLength ≤ ((w.run T acts).arrivedAt n).length) :
    ∃ t k k', Meeting T w n t k k' acts acts' := by
  -- Both runs stay beside what is left of them, and that is the same.
  obtain ⟨hpair, hcalm⟩ := hstart.calm T hw hw hwaits
  have hpair' := hstart.run T hw hw (hsame ▸ hcalm) htime (harrived ▸ hwhole)
  rw [hsame] at hpair'
  obtain ⟨-, t, hfed⟩ := hpair.waits hwaits
  have hw₁ := hw.run T acts
  have hw₂ := hw.run T acts'
  cases hpair' with
  | idle queued hn hs => exact absurd hfed.place.2 (hn t)
  | fed t' hfed' =>
      cases hfed.place.2.symm.trans hfed'.place.2
      -- Each handler reads on until it has what it can have of the frame.
      obtain ⟨k, hk, hnone, hfull, harr, hc⟩ := hfed.drain T hw₁ hwhole (Nat.sub_le _ _)
      obtain ⟨k', hk', hnone', hfull', harr', hc'⟩ :=
        hfed'.drain T hw₂ (harrived ▸ hwhole) (Nat.sub_le _ _)
      have hmet := hfull.same hfull' (hw₁.run T _) (hw₂.run T _)
        (harr'.trans (harrived.trans harr.symm)) hc hc'
      have hlater : ∀ later, Same (w.run T (acts ++ List.replicate k (.task t) ++ later))
          (w.run T (acts' ++ List.replicate k' (.task t) ++ later)) := by
        intro later
        rw [run_append, run_append, run_append, run_append]
        exact hmet.run T (hw₁.run T _) (hw₂.run T _) later
      refine ⟨t, k, k', hfed.place.1, ⟨hk, hk'⟩, ⟨hnone, hnone'⟩, ?_, hlater,
        fun later => (hlater later).outcome⟩
      rw [run_append]
      exact hfull.waits.1

/-- **No octet is lost or read twice between the frame and the tunnel.**  In
every run of a node,

  • what an engine reads from a connection is a beginning of what its remote end
    writes, without the frame; and if the connection is handed over, the link
    has read the frame and nothing else, has decided by it, and an engine that
    finds the end has read all the rest (`Delivered`),
  • but for its reads, and for its engine, the moves of a handler do not depend
    on what comes in,
  • if two runs are the same but for the pieces in which octets come in on a
    connection and are read by its handler, if the handler of the first still
    waits, if in both the same octets have come in, with a whole frame among
    them, and in the second the frame comes before the handler gives up, then
    after a few more reads, if the handlers have not made them, and still before
    the decision, the two worlds are the same, and so they are whatever happens
    then: with the same outcomes of all links, and the same hand-overs
    (`Meeting`). -/
theorem no_octet_lost (T : Transport σ) (me : Identity) (settings : Settings) (engine : Engine)
    (state : σ) :
    let w := start me settings engine state
    (∀ acts n,
      taken (w.engineStrokes T n acts) <+: (w.writtenTo T n acts).drop frameLength ∧
      ((w.run T acts).Kept n → Delivered T w n acts)) ∧
    (∀ (node : Node) (wire : Wire) (h : Handler) (queued octets : Bytes),
      (∀ due got, h.phase ≠ .receiving due got) →
      (∀ entry session, h.phase ≠ .tunnelling entry session) →
      h.step node (wire.recut queued octets) =
        (h.step node wire).map (·.recut queued octets)) ∧
    ∀ acts acts' n, uncut T n w acts' = uncut T n w acts → (w.run T acts).Waits n →
      w.writtenTo T n acts' = w.writtenTo T n acts →
      frameLength ≤ (w.writtenTo T n acts).length → InTime T n w acts' →
      ∃ t k k', Meeting T w n t k k' acts acts' := by
  intro w
  -- All runs begin in a sound world, in which no task has a connection.
  have hw : w.Sound me := sound_start me settings engine state
  have hfree : ∀ n s, w.place n ≠ .taken s := by
    intro n s hs
    cases hs
  refine ⟨fun acts n => ⟨?_, ?_⟩, fun node wire h queued octets hr ht => ?_, ?_⟩
  · exact engine_reads_beginning hw (hfree n) rfl T acts
  · exact delivered hw (hfree n) rfl T
  · exact Handler.step_recut node wire hr ht queued octets
  · intro acts acts' n hsame hwaits hwritten hwhole htime
    have harrived : ∀ acts, (w.run T acts).arrivedAt n = w.writtenTo T n acts :=
      fun acts => arrivedAt_run T hw acts
    exact meet T hw (pair_start me settings engine state n) hsame hwaits htime
      (by rw [harrived, harrived, hwritten]) (by rw [harrived]; exact hwhole)

/-! ## §5. A frame in one piece, and in three. -/

/-- What the remote end of a connection sends: its frame, and three octets for the
engine. -/
def frameAndMore : Bytes := (Frame.own (.replicate 0xbb) 3).encode ++ [1, 2, 3]

/-- All of it comes at once, when the handler receives. -/
def inOnePiece : List (Act Script) := acceptAndSend ++ [.remote 0 (.write frameAndMore)]

/-- It comes in three pieces: the first before the connection is accepted, and the
last one with the octets for the engine. -/
def inThreePieces : List (Act Script) :=
  [.make .tcp "peer" "near" "far" 1024 {}, .remote 0 (.write (frameAndMore.take 10)),
    .accept 0 false] ++ List.replicate 5 (.task 0) ++
    [.remote 0 (.write ((frameAndMore.drop 10).take 20)), .task 0,
      .remote 0 (.write (frameAndMore.drop 30))]

/-- The pieces make no difference, and the engine reads the three octets. -/
theorem no_octet_lost_pieces :
    (let acts := inThreePieces ++ List.replicate 8 (.task 0)
    Delivered Script.transport scriptedNode 0 acts ∧
      taken (scriptedNode.engineStrokes Script.transport 0 acts) = [1, 2, 3]) ∧
    ∃ t k k', Meeting Script.transport scriptedNode 0 t k k' inOnePiece inThreePieces := by
  obtain ⟨hdelivered, -, hmeet⟩ :=
    no_octet_lost Script.transport (.replicate 0xaa) {} .collect {}
  refine ⟨⟨(hdelivered _ 0).2 ⟨.replicate 0xbb, 3, by decide +kernel⟩, by decide +kernel⟩, ?_⟩
  refine hmeet inOnePiece inThreePieces 0 rfl ⟨0, by decide +kernel, by decide +kernel⟩
    (by decide +kernel) (by decide +kernel) ?_
  -- The clock stands still, so all points of the run are before the deadline.
  have hpoints : ∀ k ≤ inThreePieces.length,
      ((scriptedNode.run Script.transport (inThreePieces.take k)).receivingUntil? 0).all
        (fun due => (scriptedNode.run Script.transport (inThreePieces.take k)).manager.now < due) =
        true := by
    decide +kernel
  intro before hbefore due hdue
  have hpoint := hpoints before.length hbefore.length_le
  rw [← List.prefix_iff_eq_take.mp hbefore] at hpoint
  have hfound : (scriptedNode.run Script.transport before).receivingUntil? 0 = some due := hdue
  rw [hfound] at hpoint
  exact .inl (of_decide_eq_true hpoint)

end LinkLayer.World

/-
  LinkLayer.Proofs.World.Octets
  ─────────────────────────────
  **NO OCTET IS LOST BETWEEN THE FRAME AND THE TUNNEL.**

  `writtenTo` is all that the remote end of a connection writes in a run,
  however it is cut, and `engineStrokes` the log of all that an engine does
  with the connection's wire.

    • `wire?_act_all` — but for the remote end, a wire changes just by the
      strokes of its link and of its engine,
    • `takenAt_run` — so what was taken off it is what the link read, and then
      what the engine read,
    • `Delivered` — of what the remote end writes, the link reads the frame, and
      the engine reads what follows: a beginning of it, and all of it once it
      has found the end.
-/
import LinkLayer.Proofs.Link.Tunnel
import LinkLayer.Proofs.World.Conduct

namespace LinkLayer.World

open Stroke

variable {σ : Type} {T : Transport σ} {me : Identity} {w w' : World σ} {a : Act σ} {n t : Nat}

/-! ## §1. What the remote end writes. -/

/-- The octets that the remote end of a connection writes in an act: those for
which there is room. -/
def writtenIn (w : World σ) (n : Nat) : Act σ → Bytes
  | .remote k (.write bs) =>
      if k = n then ((w.wire? n).bind (·.remoteWrite bs)).elim [] fun r => bs.take r.1 else []
  | _ => []

/-- All that the remote end of a connection writes in a run. -/
def writtenTo (T : Transport σ) (w : World σ) (n : Nat) : List (Act σ) → Bytes
  | [] => []
  | a :: rest => w.writtenIn n a ++ (w.act T a).writtenTo T n rest

theorem writtenTo_append (T : Transport σ) (w : World σ) (n : Nat) (l l' : List (Act σ)) :
    w.writtenTo T n (l ++ l') = w.writtenTo T n l ++ (w.run T l).writtenTo T n l' := by
  induction l generalizing w with
  | nil => rfl
  | cons a rest ih =>
      show w.writtenIn n a ++ (w.act T a).writtenTo T n (rest ++ l') = _
      rw [ih, ← List.append_assoc]
      rfl

/-- A write of the remote end puts behind what arrived what there is room for. -/
theorem arrived_remoteWrite (wire : Wire) (bs : Bytes) :
    ((RemoteAct.write bs).apply wire).arrived =
      wire.arrived ++ (wire.remoteWrite bs).elim [] fun r => bs.take r.1 := by
  unfold RemoteAct.apply Wire.remoteWrite
  dsimp only
  split
  · simp
  · simp [Wire.arrived, Pipe.push]

/-- What the remote end writes arrives, and nothing else. -/
theorem arrivedAt_act (T : Transport σ) (hw : w.Sound me) (a : Act σ) :
    (w.act T a).arrivedAt n = w.arrivedAt n ++ w.writtenIn n a := by
  by_cases ha : a.fed? = some n
  · -- The remote end writes or reads.
    have hremote : ∀ what : RemoteAct, (w.act T (.remote n what)).wire? n =
        (w.wire? n).map what.apply :=
      fun what => (wire?_onWire w n n what.apply).trans (if_pos rfl)
    cases a with
    | remote k what =>
        cases what with
        | write bs =>
            cases ha
            unfold arrivedAt writtenIn
            dsimp only
            rw [hremote, if_pos rfl]
            cases w.wire? n with
            | none => rfl
            | some wire => exact arrived_remoteWrite wire bs
        | read count =>
            cases ha
            unfold arrivedAt writtenIn
            rw [hremote, List.append_nil]
            cases w.wire? n <;> rfl
        | shutDown => cases ha
        | drop => cases ha
    | _ => cases ha
  · have hnone : w.writtenIn n a = [] := by
      unfold writtenIn
      split
      · next k bs =>
          refine if_neg ?_
          rintro rfl
          exact ha rfl
      · rfl
    rw [hnone, List.append_nil]
    exact ((act_change T hw a).flows hw ha).arrived

/-- **What has arrived is what the remote end has written.** -/
theorem arrivedAt_run (T : Transport σ) (hw : w.Sound me) (acts : List (Act σ)) :
    (w.run T acts).arrivedAt n = w.arrivedAt n ++ w.writtenTo T n acts := by
  induction acts generalizing w with
  | nil => exact (List.append_nil _).symm
  | cons a rest ih =>
      have hrest := ih ((act_change T hw a).sound hw)
      rw [arrivedAt_act T hw a, List.append_assoc] at hrest
      exact hrest

/-! ## §2. What the engine does. -/

/-- The session of the engine that has a connection, if that belongs to a
task. -/
def session? (w : World σ) (n t : Nat) : Option Engine.Session :=
  (w.handler? t).bind fun h =>
    if h.number = n then
      match h.phase with
      | .tunnelling _ session => some session
      | _ => none
    else none

/-- The strokes of the engine of a connection in an act.  With its task, an
engine is cancelled, and drops the wire. -/
def engineStrokesIn (w : World σ) (n : Nat) : Act σ → List Stroke
  | .task t =>
      match w.session? n t, w.wire? n with
      | some session, some wire => session.strokes wire
      | _, _ => []
  | .tunnel t what =>
      match w.session? n t, w.wire? n with
      | some _, some wire => what.strokes wire
      | _, _ => []
  | .cancel t => if (w.session? n t).isSome then [.drop] else []
  | _ => []

/-- The strokes of the engine of a connection in a run, in their order. -/
def engineStrokes (T : Transport σ) (w : World σ) (n : Nat) : List (Act σ) → List Stroke
  | [] => []
  | a :: rest => w.engineStrokesIn n a ++ (w.act T a).engineStrokes T n rest

/-- The number of octets for which the engine of a connection asks in an act, if
it reads. -/
def asksIn (w : World σ) (n : Nat) : Act σ → Option Nat
  | .task t => (w.session? n t).bind Engine.Session.asks
  | .tunnel t what => (w.session? n t).bind fun _ => what.asks
  | _ => none

/-- The engine of a connection finds the end of what the remote end sends: it
asks for octets, and gets none. -/
def FindsEnd (w : World σ) (n : Nat) (a : Act σ) : Prop :=
  ∃ limit wire wire', w.asksIn n a = some limit ∧ 0 < limit ∧ w.wire? n = some wire ∧
    wire.read limit = .done ([], wire')

theorem session?_eq_some {session : Engine.Session} (hs : w.session? n t = some session) :
    ∃ h entry, w.handler? t = some h ∧ h.number = n ∧ h.phase = .tunnelling entry session := by
  obtain ⟨h, hh, hif⟩ := Option.bind_eq_some_iff.mp hs
  split at hif
  · next hn =>
      split at hif
      · next entry session' hp =>
          cases hif
          exact ⟨h, entry, hh, hn, hp⟩
      · cases hif
  · cases hif

theorem session?_of_handler {h : Handler} {entry : Handle} {session : Engine.Session}
    (hh : w.handler? t = some h) (hn : h.number = n) (hp : h.phase = .tunnelling entry session) :
    w.session? n t = some session := by
  simp [session?, hh, hn, hp]

/-- A connection with an engine was handed over. -/
theorem Sound.kept_of_session (hw : w.Sound me) {session : Engine.Session}
    (hs : w.session? n t = some session) : w.Kept n := by
  obtain ⟨h, entry, hh, rfl, hp⟩ := session?_eq_some hs
  obtain ⟨c, wire, -, -, -, htends⟩ := hw.tends hh
  have hc := htends.chronicle
  simp only [Handler.Chronicle, hp] at hc
  obtain ⟨octets, peer, -, -, hds⟩ := hc
  have hover := Handler.handedOver_servedLog h.link h.number h.settings octets peer
  rw [← hds] at hover
  exact hover

/-- Without a session there is no stroke of an engine. -/
theorem engineStrokesIn_of_none
    (hnone : ∀ s, a = .task s ∨ a = .cancel s ∨ (∃ what, a = .tunnel s what) →
      w.session? n s = none) : w.engineStrokesIn n a = [] := by
  unfold engineStrokesIn
  split
  · next s =>
      rw [hnone s (.inl rfl)]
  · next s what =>
      rw [hnone s (.inr (.inr ⟨what, rfl⟩))]
  · next s =>
      rw [hnone s (.inr (.inl rfl))]
      rfl
  · rfl

/-- Before the hand-over there is no engine. -/
theorem engineStrokesIn_of_not_kept (hw : w.Sound me) (hk : ¬ w.Kept n) (a : Act σ) :
    w.engineStrokesIn n a = [] := by
  refine engineStrokesIn_of_none fun s _ => ?_
  cases hs : w.session? n s with
  | none => rfl
  | some session => exact absurd (hw.kept_of_session hs) hk

/-- An engine that has a connection, and what an act makes of its wire. -/
theorem wire?_act_of_session (T : Transport σ) (hw : w.Sound me) {session : Engine.Session}
    (hs : w.session? n t = some session) (hr : ∀ what, a ≠ .remote n what) :
    (w.act T a).wire? n = (w.wire? n).map (applyAll · (w.engineStrokesIn n a)) := by
  obtain ⟨h, entry, hh, hn, hphase⟩ := session?_eq_some hs
  have hp : w.place n = .taken t := hn ▸ hw.holders t h hh
  obtain ⟨c, wire, -, hwire, -, htends⟩ := hw.tends hh
  obtain ⟨origin, ht⟩ := find?_of_handler? hh
  have hwire' : w.wire? n = some wire := hn ▸ hwire
  rw [hwire', Option.map_some]
  by_cases ha : Concerns n t a
  · rcases ha with rfl | rfl | ⟨what, rfl⟩ | ⟨what, rfl⟩
    · -- Its next move,
      have hstrokes : w.engineStrokesIn n (.task t) = session.strokes wire := by
        simp only [engineStrokesIn, hs, hwire']
      have hstep : h.step w.manager.toNode wire =
          h.afterEngine w.manager.toNode wire entry (session.step wire) := by
        rw [Handler.step, hphase]
        rfl
      have ho : h.outcome? = none := by rw [Handler.outcome?, hphase]
      rw [hstrokes]
      cases hmove : h.step w.manager.toNode wire with
      | none =>
          rw [act_task_of_waits T ht hwire ho hmove, hwire',
            Handler.fits_of_waits (hstep ▸ hmove) (session.step_fits wire)]
          rfl
      | some move =>
          rw [act_task_eq T ht hwire ho hmove,
            ← Handler.afterEngine_wire (hstep ▸ hmove) (session.step_fits wire), hn]
          exact Table.find?_put_self _ _ _
    · -- its end with its task,
      have hstrokes : w.engineStrokesIn n (.cancel t) = [.drop] := by
        simp only [engineStrokesIn, hs, Option.isSome_some, if_true]
      have hbusy : h.isBusy = false := by rw [Handler.isBusy, hphase]
      have ho : h.outcome? = none := by rw [Handler.outcome?, hphase]
      rw [hstrokes, act_cancel_eq T ht hwire, if_neg (by rw [hbusy]; simp), hn]
      refine (Table.find?_put_self _ _ _).trans (congrArg some ?_)
      simp [Handler.cancel, ho, applyAll, Stroke.apply]
    · -- or whatever else it does.
      have hstrokes : w.engineStrokesIn n (.tunnel t what) = what.strokes wire := by
        simp only [engineStrokesIn, hs, hwire']
      have hact := act_tunnel_eq T ht hwire what
      rw [hphase] at hact
      dsimp only at hact
      rw [hstrokes, hact]
      cases hmove : h.afterEngine w.manager.toNode wire entry (what.progress session wire) with
      | none =>
          dsimp only
          rw [hwire', Handler.fits_of_waits hmove (what.progress_fits session wire)]
          rfl
      | some move =>
          dsimp only
          rw [← Handler.afterEngine_wire hmove (what.progress_fits session wire), hn]
          exact Table.find?_put_self _ _ _
    · exact absurd rfl (hr what)
  · have hnone : w.engineStrokesIn n a = [] := by
      refine engineStrokesIn_of_none fun s hor => ?_
      cases hs' : w.session? n s with
      | none => rfl
      | some session' =>
          -- No other task has the connection.
          obtain ⟨h', entry', hh', hn', -⟩ := session?_eq_some hs'
          cases hw.task_of_number hp hh' hn'
          refine absurd ?_ ha
          rcases hor with rfl | rfl | hor
          · exact .inl rfl
          · exact .inr (.inl rfl)
          · exact .inr (.inr (.inl hor))
    rw [((act_change T hw a).aside hw hp ha).2.1, hwire', hnone]
    rfl

/-- **But for the remote end, a connection's wire changes just by the strokes of
its link and of its engine.** -/
theorem wire?_act_all (T : Transport σ) (hw : w.Sound me) (hp : w.place n = .taken t)
    (hr : ∀ what, a ≠ .remote n what) :
    (w.act T a).wire? n =
      (w.wire? n).map (applyAll · (w.strokesIn n a ++ w.engineStrokesIn n a)) := by
  by_cases ht : ∃ s session, w.session? n s = some session
  · -- The engine has the wire, and the link leaves it alone.
    obtain ⟨s, session, hs⟩ := ht
    have hquiet := quiet_of_kept hw hp (hw.kept_of_session hs)
    rw [hquiet.strokesIn hw hp a, List.nil_append]
    exact wire?_act_of_session T hw hs hr
  · have hnone : w.engineStrokesIn n a = [] := by
      refine engineStrokesIn_of_none fun s _ => ?_
      cases hs : w.session? n s with
      | none => rfl
      | some session => exact absurd ⟨s, session, hs⟩ ht
    rw [hnone, List.append_nil]
    refine wire?_act T hw hp hr ?_
    rintro ⟨s, h, entry, session, hh, hn, hphase⟩
    exact ht ⟨s, session, session?_of_handler hh hn hphase⟩

/-! ## §3. What was taken off a wire. -/

/-- All that was taken off the wire of a connection. -/
def takenAt (w : World σ) (n : Nat) : Bytes := ((w.wire? n).map Wire.taken).getD []

theorem takenAt_prefix_arrivedAt (w : World σ) (n : Nat) : w.takenAt n <+: w.arrivedAt n := by
  unfold takenAt arrivedAt
  cases w.wire? n with
  | none => exact List.prefix_rfl
  | some wire => exact wire.taken_prefix_arrived

/-- Nothing was taken off a wire that no task has. -/
theorem takenAt_of_idle (hw : w.Sound me) (hn : ∀ s, w.place n ≠ .taken s) :
    w.takenAt n = [] := by
  unfold takenAt
  cases hwire : w.wire? n with
  | none => rfl
  | some wire => exact congrArg Wire.Record.taken ((hw.idle n hn).2.2 wire hwire)

/-- Whatever is taken is read by the link or by the engine. -/
theorem takenAt_act (T : Transport σ) (hw : w.Sound me) (a : Act σ) :
    (w.act T a).takenAt n =
      w.takenAt n ++ taken (w.strokesIn n a) ++ taken (w.engineStrokesIn n a) := by
  by_cases hp : ∃ t, w.place n = .taken t
  · obtain ⟨t, hp⟩ := hp
    obtain ⟨c, wire, task, -, hwire, -, -⟩ := hw.attended n t hp
    by_cases hr : ∃ what, a = .remote n what
    · -- The remote end takes nothing off this end.
      obtain ⟨what, rfl⟩ := hr
      have hremote : (w.act T (.remote n what)).wire? n = (w.wire? n).map what.apply :=
        (wire?_onWire w n n what.apply).trans (if_pos rfl)
      have hrecord := Wire.Record.mk.inj (record_apply wire what)
      simp only [takenAt, hremote, hwire, Option.map_some, Option.getD_some, strokesIn,
        engineStrokesIn, taken, List.flatMap_nil, List.append_nil]
      exact hrecord.1
    · have hall := wire?_act_all T hw hp (not_exists.mp hr)
      have hrecord := Wire.Record.mk.inj
        (record_applyAll wire (w.strokesIn n a ++ w.engineStrokesIn n a))
      simp only [takenAt, hall, hwire, Option.map_some, Option.getD_some]
      rw [hrecord.1, taken_append, List.append_assoc]
  · -- Nobody reads from a connection that no task has.
    have hn := not_exists.mp hp
    have hnone : w.engineStrokesIn n a = [] := by
      refine engineStrokesIn_of_none fun s _ => ?_
      cases hs : w.session? n s with
      | none => rfl
      | some session =>
          obtain ⟨h, entry, hh, rfl, -⟩ := session?_eq_some hs
          exact absurd (hw.holders s h hh) (hn s)
    rw [strokesIn_of_idle hw hn a, hnone, takenAt_of_idle hw hn]
    have hc := act_change T hw a
    have hw' := hc.sound hw
    by_cases hp' : ∃ t, (w.act T a).place n = .taken t
    · -- A task that gets it in this act begins with a fresh handler.
      obtain ⟨t, hp'⟩ := hp'
      obtain ⟨h, hh, rfl, hfresh⟩ := hc.fresh_of_taken hn hp'
      obtain ⟨c, wire, -, hwire, -, htends⟩ := hw'.tends hh
      have hwired := htends.wired
      simp only [Handler.Wired, hfresh] at hwired
      have htaken : wire.taken = [] := congrArg Wire.Record.taken hwired
      simp only [takenAt, hwire, Option.map_some, Option.getD_some, htaken]
      rfl
    · exact takenAt_of_idle hw' (not_exists.mp hp')

/-- **First the link reads, and then the engine.** -/
theorem takenAt_run (T : Transport σ) (hw : w.Sound me) (acts : List (Act σ)) :
    (w.run T acts).takenAt n =
      w.takenAt n ++ taken (w.strokes T n acts) ++ taken (w.engineStrokes T n acts) := by
  induction acts generalizing w with
  | nil => simp [World.run, strokes, engineStrokes, taken]
  | cons a rest ih =>
      have hc := act_change T hw a
      have hw' := hc.sound hw
      have hrest := ih hw'
      rw [takenAt_act T hw a] at hrest
      have hlink : taken (w.strokes T n (a :: rest)) =
          taken (w.strokesIn n a) ++ taken ((w.act T a).strokes T n rest) := taken_append _ _
      have hengine : taken (w.engineStrokes T n (a :: rest)) =
          taken (w.engineStrokesIn n a) ++ taken ((w.act T a).engineStrokes T n rest) :=
        taken_append _ _
      -- Once the engine has read, the link reads no more.
      have horder : taken (w.engineStrokesIn n a) ++ taken ((w.act T a).strokes T n rest) =
          taken ((w.act T a).strokes T n rest) ++ taken (w.engineStrokesIn n a) := by
        by_cases hk : w.Kept n
        · obtain ⟨peer, metric, hd⟩ := hk
          obtain ⟨t, _, _, _, hp, -⟩ := hw.of_mem_deedsOf hd
          have hquiet := (quiet_of_kept hw hp ⟨peer, metric, hd⟩).act T hw hp a
          rw [hquiet.strokes T hw' (hc.place hw hp) rest]
          exact (List.append_nil _).trans (List.nil_append _).symm
        · rw [engineStrokesIn_of_not_kept hw hk]
          exact (List.nil_append _).trans (List.append_nil _).symm
      have hrun : w.run T (a :: rest) = (w.act T a).run T rest := rfl
      rw [hrun, hrest, hlink, hengine]
      simp only [List.append_assoc]
      rw [← List.append_assoc (taken (w.engineStrokesIn n a)), horder, List.append_assoc]

/-! ## §4. The end of what the remote end sends. -/

/-- The remote end of a connection writes no more. -/
def ClosedAt (w : World σ) (n : Nat) : Prop :=
  ∃ wire, w.wire? n = some wire ∧ wire.inbound.closed = true

/-- A pipe that is closed stays closed, -/
theorem ClosedAt.act (hc : w.ClosedAt n) (T : Transport σ) (hw : w.Sound me)
    (hp : w.place n = .taken t) (a : Act σ) : (w.act T a).ClosedAt n := by
  obtain ⟨wire, hwire, hclosed⟩ := hc
  by_cases hr : ∃ what, a = .remote n what
  · obtain ⟨what, rfl⟩ := hr
    have hremote : (w.act T (.remote n what)).wire? n = (w.wire? n).map what.apply :=
      (wire?_onWire w n n what.apply).trans (if_pos rfl)
    rw [hwire, Option.map_some] at hremote
    refine ⟨_, hremote, ?_⟩
    cases what with
    | write bs =>
        unfold RemoteAct.apply Wire.remoteWrite
        simp only [hclosed, if_true, Option.map_none, Option.getD_none]
    | read count => exact hclosed
    | shutDown => rfl
    | drop => rfl
  · have hall := wire?_act_all T hw hp (not_exists.mp hr)
    rw [hwire, Option.map_some] at hall
    exact ⟨_, hall, closed_applyAll hclosed _⟩

/-- and nothing more is written. -/
theorem ClosedAt.writtenTo (hc : w.ClosedAt n) (T : Transport σ) (hw : w.Sound me)
    (hp : w.place n = .taken t) (acts : List (Act σ)) : w.writtenTo T n acts = [] := by
  induction acts generalizing w with
  | nil => rfl
  | cons a rest ih =>
      have hchange := act_change T hw a
      have hnone : w.writtenIn n a = [] := by
        obtain ⟨wire, hwire, hclosed⟩ := hc
        unfold writtenIn
        split
        · next k bs =>
            split
            · simp [hwire, Wire.remoteWrite, hclosed]
            · rfl
        · rfl
      show w.writtenIn n a ++ (w.act T a).writtenTo T n rest = []
      rw [hnone, ih (hc.act T hw hp a) (hchange.sound hw) (hchange.place hw hp)]
      rfl

/-- Whoever finds the end has read all that has arrived. -/
theorem FindsEnd.all (hf : w.FindsEnd n a) : w.takenAt n = w.arrivedAt n ∧ w.ClosedAt n := by
  obtain ⟨limit, wire, wire', -, hl, hwire, hr⟩ := hf
  obtain ⟨hqueued, hclosed⟩ := Wire.read_end hl hr
  refine ⟨?_, wire, hwire, hclosed⟩
  simp [takenAt, arrivedAt, hwire, Wire.arrived, hqueued]

/-! ## §5. All runs. -/

/-- What the link of a connection did with the wire in a run is on its log. -/
theorem exists_logs (T : Transport σ) (hw : w.Sound me) (hn : ∀ s, w.place n ≠ .taken s)
    {acts : List (Act σ)} (hp : (w.run T acts).place n = .taken t) :
    ∃ l, Logs me l n t (w.run T acts) (w.strokes T n acts) := by
  obtain ⟨before, a, after, h, rfl, hbefore, hh, rfl, hfresh⟩ := taken_run T hw hn hp
  have hidle : w.strokes T h.number (before ++ [a]) = [] := by
    rw [strokes_append, strokes_of_idle T hw before hbefore]
    show (w.run T before).strokesIn h.number a ++ [] = []
    rw [strokesIn_of_idle (hw.run T before) (hbefore before [] (by simp)) a]
    rfl
  have hlogs := (logs_of_fresh (hw.run T (before ++ [a])) hh hfresh).run T
    (hw.run T (before ++ [a])) after
  rw [show before ++ a :: after = before ++ [a] ++ after by simp, run_append, strokes_append,
    hidle]
  exact ⟨h.link, hlogs⟩

/-- Before the hand-over, nothing is read by an engine. -/
theorem engineStrokes_of_not_kept (T : Transport σ) (hw : w.Sound me) {acts : List (Act σ)}
    (hk : ¬ (w.run T acts).Kept n) : w.engineStrokes T n acts = [] := by
  induction acts generalizing w with
  | nil => rfl
  | cons a rest ih =>
      have hw' := (act_change T hw a).sound hw
      have hbefore : ¬ w.Kept n := by
        rintro ⟨peer, metric, hd⟩
        exact hk ⟨peer, metric, (deedsOf_run hw (a :: rest) n).subset hd⟩
      show w.engineStrokesIn n a ++ (w.act T a).engineStrokes T n rest = []
      rw [engineStrokesIn_of_not_kept hw hbefore, ih hw' hk]
      rfl

/-- What becomes of the octets that the remote end of a connection writes, if
the connection is handed over. -/
structure Delivered (T : Transport σ) (w : World σ) (n : Nat) (acts : List (Act σ)) : Prop where
  /-- The link reads the first octets of them, as many as a frame has, and no
  others; -/
  frame : Stroke.taken (w.strokes T n acts) = (w.writtenTo T n acts).take frameLength
  whole : frameLength ≤ (w.writtenTo T n acts).length
  /-- this is the frame for which the peer was welcome, and all that was done with
  the link is on record with it. -/
  decided : ∃ l settings peer,
    Handler.Welcome l settings ((w.writtenTo T n acts).take frameLength) peer ∧
    (w.run T acts).deedsOf n =
      Handler.servedLog l n settings ((w.writtenTo T n acts).take frameLength) peer
  /-- Besides, only the engine takes octets off the wire, and only what follows. -/
  taken : (w.run T acts).takenAt n =
    (w.writtenTo T n acts).take frameLength ++ Stroke.taken (w.engineStrokes T n acts)
  /-- An engine that finds the end has read all that follows the frame, whatever
  comes later. -/
  all : ∀ before a after, acts = before ++ a :: after → (w.run T before).FindsEnd n a →
    Stroke.taken (w.engineStrokes T n before) = (w.writtenTo T n acts).drop frameLength

section

variable (hw : w.Sound me) (hfresh : ∀ s, w.place n ≠ .taken s) (hempty : w.arrivedAt n = [])

include hw hfresh

/-- The frame that is on record is what the link read. -/
theorem taken_of_received {acts : List (Act σ)} {octets : Bytes}
    (hd : Deed.received octets ∈ (w.run T acts).deedsOf n) :
    taken (w.strokes T n acts) = octets := by
  obtain ⟨t, _, _, _, hp, -⟩ := (hw.run T acts).of_mem_deedsOf hd
  obtain ⟨l, hlogs⟩ := exists_logs T hw hfresh hp
  exact hlogs.readOnce octets hd

include hempty

/-- **A link that is handed over has read the frame, and the frame is the first
that was written.** -/
theorem frame_of_kept {acts : List (Act σ)} (hk : (w.run T acts).Kept n) :
    taken (w.strokes T n acts) = (w.writtenTo T n acts).take frameLength ∧
      frameLength ≤ (w.writtenTo T n acts).length ∧
      ∃ l settings peer,
        Handler.Welcome l settings ((w.writtenTo T n acts).take frameLength) peer ∧
        (w.run T acts).deedsOf n =
          Handler.servedLog l n settings ((w.writtenTo T n acts).take frameLength) peer := by
  have hw' := hw.run T acts
  obtain ⟨peer, metric, hover⟩ := hk
  obtain ⟨l, c, -, -, hstory⟩ := hw'.story hover
  obtain ⟨settings, octets, frame, hwel, hds⟩ := hstory.of_handedOver hover
  have hd : Deed.received octets ∈ (w.run T acts).deedsOf n := by
    rw [hds]
    simp [Handler.servedLog, Handler.askedLog, Handler.readLog]
  obtain ⟨hlength, hprefix⟩ := hw'.received hd
  have harrived := arrivedAt_run (n := n) T hw acts
  rw [hempty, List.nil_append] at harrived
  rw [harrived] at hprefix
  have hoctets : octets = (w.writtenTo T n acts).take frameLength := by
    rw [List.prefix_iff_eq_take.mp hprefix, hlength]
  refine ⟨(taken_of_received hw hfresh hd).trans hoctets, ?_, l, settings, frame,
    hoctets ▸ hwel, hoctets ▸ hds⟩
  rw [← hlength]
  exact hprefix.length_le

/-- **What an engine has read is a beginning of what follows the frame.** -/
theorem engine_reads_beginning (T : Transport σ) (acts : List (Act σ)) :
    taken (w.engineStrokes T n acts) <+: (w.writtenTo T n acts).drop frameLength := by
  by_cases hk : (w.run T acts).Kept n
  · obtain ⟨hframe, -, -⟩ := frame_of_kept hw hfresh hempty hk
    have htaken := takenAt_run (n := n) T hw acts
    have harrived := arrivedAt_run (n := n) T hw acts
    rw [takenAt_of_idle hw hfresh, List.nil_append, hframe] at htaken
    rw [hempty, List.nil_append] at harrived
    obtain ⟨rest, hrest⟩ := takenAt_prefix_arrivedAt (w.run T acts) n
    rw [htaken, harrived, List.append_assoc] at hrest
    -- The frame is what comes first on both sides.
    have hsplit := List.take_append_drop frameLength (w.writtenTo T n acts)
    exact ⟨rest, List.append_cancel_left (hrest.trans hsplit.symm)⟩
  · rw [engineStrokes_of_not_kept T hw hk]
    exact List.nil_prefix

/-- **An engine that has found the end has read all that follows the frame.** -/
theorem engine_reads_all (T : Transport σ) {before after : List (Act σ)} {a : Act σ}
    (hf : (w.run T before).FindsEnd n a) :
    taken (w.engineStrokes T n before) =
      (w.writtenTo T n (before ++ a :: after)).drop frameLength := by
  have hw' := hw.run T before
  obtain ⟨hall, hclosed⟩ := hf.all
  have hkept : (w.run T before).Kept n := by
    obtain ⟨limit, _, _, hasks, -⟩ := hf
    unfold asksIn at hasks
    split at hasks
    · obtain ⟨session, hs, -⟩ := Option.bind_eq_some_iff.mp hasks
      exact hw'.kept_of_session hs
    · obtain ⟨session, hs, -⟩ := Option.bind_eq_some_iff.mp hasks
      exact hw'.kept_of_session hs
    · cases hasks
  obtain ⟨hframe, -, -⟩ := frame_of_kept hw hfresh hempty hkept
  obtain ⟨peer, metric, hd⟩ := hkept
  obtain ⟨t, _, _, _, hp, -⟩ := hw'.of_mem_deedsOf hd
  have htaken := takenAt_run (n := n) T hw before
  have harrived := arrivedAt_run (n := n) T hw before
  rw [takenAt_of_idle hw hfresh, List.nil_append, hframe] at htaken
  rw [hempty, List.nil_append] at harrived
  -- Nothing is written after the end, and what was written is what was read.
  rw [writtenTo_append, hclosed.writtenTo T hw' hp, List.append_nil]
  have hsplit := List.take_append_drop frameLength (w.writtenTo T n before)
  have hboth : (w.writtenTo T n before).take frameLength
      ++ taken (w.engineStrokes T n before)
      = (w.writtenTo T n before).take frameLength
        ++ (w.writtenTo T n before).drop frameLength := by
    rw [hsplit, ← htaken, hall, harrived]
  exact List.append_cancel_left hboth

/-- **Nothing is lost between the frame and the tunnel.** -/
theorem delivered (T : Transport σ) {acts : List (Act σ)} (hk : (w.run T acts).Kept n) :
    Delivered T w n acts := by
  obtain ⟨hframe, hwhole, hdecided⟩ := frame_of_kept hw hfresh hempty hk
  refine ⟨hframe, hwhole, hdecided, ?_, ?_⟩
  · rw [takenAt_run T hw acts, takenAt_of_idle hw hfresh, List.nil_append, hframe]
  · rintro before a after rfl hf
    exact engine_reads_all hw hfresh hempty T hf

end

end LinkLayer.World

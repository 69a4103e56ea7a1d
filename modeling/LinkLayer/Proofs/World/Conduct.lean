/-
  LinkLayer.Proofs.World.Conduct
  ──────────────────────────────
  **WHAT A LINK PUTS ON ITS WIRE.**

  `strokes` is the log of all that the handler of one connection does with its
  wire in a run.  Whatever the wire's faults and capacity, and whatever the
  remote end does,

    • the link writes a beginning of its frame, all of it by the time at which
      it waits for the peer's frame, and nothing else,
    • a link that is not handed over asks for an orderly close once at most,
      as its wire has it on record, and then drops the wire; a link that is
      handed over does neither,
    • after its close, or its hand-over, a link leaves its wire alone.

  `link_conduct` says so of all runs.
-/
import LinkLayer.Proofs.Link.Stroke
import LinkLayer.Proofs.Registry.Precedence
import LinkLayer.Proofs.World.Dealing

namespace LinkLayer

open Stroke

/-! ## §1. Turns of a link that is handed over or at an end. -/

namespace Handler

variable {node : Node} {wire : Wire} {h : Handler} {move : Move} {ds : List Deed} {me : Identity}
  {log : List Stroke}

/-- Whoever has handed over or ended does nothing more with the wire. -/
theorem strokes_of_not_isOpen (ho : h.isOpen = false) : h.strokes wire = [] := by
  unfold isOpen at ho
  unfold strokes
  cases hp : h.phase <;> simp_all

theorem Staged.parting_of_not_isOpen (hs : h.Staged) (ho : h.isOpen = false) :
    h.parting = [] := by
  unfold parting
  cases hout : h.outcome? with
  | some outcome => rfl
  | none => simp [(hs.holdsWire_eq hout).trans ho]

/-- There is no way back to the exchange. -/
theorem Turn.not_isOpen (ht : Turn node wire h move) (ho : h.isOpen = false) :
    move.handler.isOpen = false := by
  cases ht with
  | carryOn | «return» | collapse | leave => rfl
  | giveUp hg =>
      unfold isOpen at ho
      generalize h.phase = phase at hg ho
      cases hg <;> simp at ho
  | _ => simp_all [isOpen]

/-- A handler that waits, and not for its engine, still has its wire. -/
theorem isOpen_of_waits (hb : h.isBusy = false) (hn : h.outcome? = none)
    (ht : ∀ entry session, h.phase ≠ .tunnelling entry session) : h.isOpen = true := by
  unfold isBusy at hb
  unfold outcome? at hn
  unfold isOpen
  cases hp : h.phase <;> simp_all

/-- A cancelled handler is at its end. -/
theorem cancel_ended (node : Node) (wire : Wire) (h : Handler) :
    ∃ outcome, (h.cancel node wire).handler.phase = .ended outcome ∧
      (h.cancel node wire).handler.link = h.link := by
  unfold cancel
  cases hout : h.outcome? with
  | some outcome => exact ⟨outcome, outcome?_eq_some.mp hout, rfl⟩
  | none => exact ⟨.cancelled, rfl, rfl⟩

/-- The frame that was received is all that the link read. -/
def ReadOnce (ds : List Deed) (log : List Stroke) : Prop :=
  ∀ octets, Deed.received octets ∈ ds → taken log = octets

/-- A handler that has not received the frame reads, and no other one. -/
theorem taken_strokes (hp : ∀ due got, h.phase ≠ .receiving due got) :
    taken (h.strokes wire) = [] := by
  unfold strokes
  split
  · split
    · rfl
    · split <;> rfl
  · next hphase => exact absurd hphase (hp _ _)
  · rfl
  · rfl

/-- **A turn reads nothing beyond the frame.** -/
theorem Turn.readOnce (hc : h.Chronicle ds) (hw : h.Wired me wire)
    (hl : h.Logged me wire ds log) (hr : ReadOnce ds log) :
    ReadOnce (ds ++ h.deeds node move) (log ++ h.strokes wire) := by
  intro octets ho
  rw [taken_append]
  rcases List.mem_append.mp ho with hold | hnew
  · -- Whoever has the frame on record has received it, and reads no more.
    have hphase : ∀ due got, h.phase ≠ .receiving due got := by
      intro due got hp
      simp only [Chronicle, hp] at hc
      simp [hc] at hold
    rw [taken_strokes hphase, List.append_nil]
    exact hr octets hold
  · obtain ⟨due, hp, hlen⟩ := World.of_mem_received hnew
    simp only [Wired, hp] at hw
    simp only [Logged, hp] at hl
    simp only [strokes, hp, hlen, if_true]
    rw [← taken_of_record hl.2, hw.1]
    exact List.append_nil _

end Handler

namespace World

variable {σ : Type} {T : Transport σ} {me : Identity} {w w' : World σ} {a : Act σ} {n t : Nat}
  {l : Link} {log : List Stroke}

/-! ## §2. Strokes in a run. -/

/-- The strokes of the link of one connection in an act. -/
def strokesIn (w : World σ) (n : Nat) : Act σ → List Stroke
  | .task t =>
      match w.handler? t, w.wire? n with
      | some h, some wire =>
          if h.number = n ∧ (h.step w.manager.toNode wire).isSome then h.strokes wire else []
      | _, _ => []
  | .cancel t =>
      match w.handler? t with
      | some h => if h.number = n ∧ h.isBusy = false then h.parting else []
      | none => []
  | _ => []

/-- The strokes of the link of one connection in a run, in their order. -/
def strokes (T : Transport σ) (w : World σ) (n : Nat) : List (Act σ) → List Stroke
  | [] => []
  | a :: rest => w.strokesIn n a ++ (w.act T a).strokes T n rest

theorem strokes_append (T : Transport σ) (w : World σ) (n : Nat) (acts acts' : List (Act σ)) :
    w.strokes T n (acts ++ acts') = w.strokes T n acts ++ (w.run T acts).strokes T n acts' := by
  induction acts generalizing w with
  | nil => rfl
  | cons a rest ih =>
      show w.strokesIn n a ++ (w.act T a).strokes T n (rest ++ acts') = _
      rw [ih, ← List.append_assoc]
      rfl

/-- No act of others is a stroke. -/
theorem strokesIn_of_aside (hw : w.Sound me) (hp : w.place n = .taken t)
    (ha : ¬ Concerns n t a) : w.strokesIn n a = [] := by
  have hnumber : ∀ s h, w.handler? s = some h → s ≠ t → h.number ≠ n :=
    fun s h hh hs hn => hs (hw.task_of_number hp hh hn)
  unfold strokesIn
  split
  · next s =>
      have hs : s ≠ t := fun he => ha (.inl (he ▸ rfl))
      split
      · next h wire hh hwire => exact if_neg fun hif => hnumber s h hh hs hif.1
      · rfl
  · next s =>
      have hs : s ≠ t := fun he => ha (.inr (.inl (he ▸ rfl)))
      split
      · next h hh => exact if_neg fun hif => hnumber s h hh hs hif.1
      · rfl
  · rfl

/-- The strokes in a move are those of the handler that makes it. -/
theorem strokesIn_of_brings {origin : Origin} {h : Handler} {wire : Wire} {move : Handler.Move}
    (ht : w.manager.tasks.find? t = some ⟨origin, .handling h⟩) (hn : h.number = n)
    (hwire : w.wire? n = some wire) (hb : Brings w.manager.toNode wire h t a move) :
    w.strokesIn n a = h.strokes wire := by
  have hh : w.handler? t = some h := handler?_of_find? ht
  cases hb with
  | task hmove => simp [strokesIn, hh, hwire, hn, hmove]
  | tunnel hp hmove => simp [strokesIn, Handler.strokes, hp]

/-- A handler that rests has no stroke to make. -/
theorem strokesIn_of_rests {origin : Origin} {h : Handler} {wire : Wire}
    (ht : w.manager.tasks.find? t = some ⟨origin, .handling h⟩) (hwire : w.wire? n = some wire)
    (hr : Rests w.manager.toNode wire h t a) : w.strokesIn n a = [] := by
  have hh : w.handler? t = some h := handler?_of_find? ht
  cases hr with
  | task ho hmove => simp [strokesIn, hh, hwire, hmove]
  | tunnel => rfl
  | cancel hb => simp [strokesIn, hh, hb]

/-- Nor has one that has ended. -/
theorem strokesIn_of_ended {origin : Origin} {h : Handler} {outcome : Outcome}
    (ht : w.manager.tasks.find? t = some ⟨origin, .handling h⟩)
    (ho : h.outcome? = some outcome) : w.strokesIn n (.task t) = [] := by
  have hh : w.handler? t = some h := handler?_of_find? ht
  have hstep : ∀ wire, h.step w.manager.toNode wire = none := by
    intro wire
    rw [Handler.step, Handler.outcome?_eq_some.mp ho]
  cases hwire : w.wire? n <;> simp [strokesIn, hh, hwire, hstep]

/-- A handler that is cancelled drops its wire, if it has it. -/
theorem strokesIn_of_cancel {origin : Origin} {h : Handler}
    (ht : w.manager.tasks.find? t = some ⟨origin, .handling h⟩) (hn : h.number = n)
    (hb : h.isBusy = false) : w.strokesIn n (.cancel t) = h.parting := by
  have hh : w.handler? t = some h := handler?_of_find? ht
  simp [strokesIn, hh, hn, hb]

/-- A task that is done makes no stroke. -/
theorem strokesIn_of_over (hh : w.handler? t = none)
    (ha : a = .task t ∨ a = .cancel t ∨ ∃ what, a = .tunnel t what) :
    w.strokesIn n a = [] := by
  rcases ha with rfl | rfl | ⟨what, rfl⟩ <;> simp [strokesIn, hh]

/-! ## §3. The log of a connection. -/

/-- The log of a link fits what its task is at. -/
def Ledger (me : Identity) (l : Link) (wire : Wire) (ds : List Deed) (log : List Stroke) :
    Activity → Prop
  | .handling h => h.link = l ∧ h.Logged me wire ds log
  | .done _ => Handler.Spent (l.frame me).encode wire ds log
  | _ => False

theorem Ledger.of_record {wire wire' : Wire} {ds : List Deed} {activity : Activity}
    (h : Ledger me l wire ds log activity) (hw : wire'.record = wire.record) :
    Ledger me l wire' ds log activity := by
  cases activity with
  | handling handler => exact ⟨h.1, h.2.of_record hw⟩
  | done outcome =>
      have hs : Handler.Spent (l.frame me).encode wire ds log := h
      exact hs.of_record hw
  | calling target => exact h.elim
  | dialling target options => exact h.elim

/-- What is on the log of a connection that a task has is what its link did
with the wire. -/
structure Logs (me : Identity) (l : Link) (n t : Nat) (w : World σ) (log : List Stroke) :
    Prop where
  place : w.place n = .taken t
  ledger : ∃ task wire, w.manager.tasks.find? t = some task ∧ w.wire? n = some wire ∧
    Ledger me l wire (w.deedsOf n) log task.activity
  readOnce : Handler.ReadOnce (w.deedsOf n) log

/-- A handler that did nothing yet has an empty log. -/
theorem logs_of_fresh (hw : w.Sound me) {h : Handler} (hh : w.handler? t = some h)
    (hp : h.phase = .fresh) : Logs me h.link h.number t w [] := by
  obtain ⟨c, wire, -, hwire, -, htends⟩ := hw.tends hh
  have hds := htends.chronicle
  have hwired := htends.wired
  simp only [Handler.Chronicle, hp] at hds
  simp only [Handler.Wired, hp] at hwired
  obtain ⟨origin, ht⟩ := find?_of_handler? hh
  refine ⟨hw.holders t h hh, ⟨_, wire, ht, hwire, rfl, ?_⟩, ?_⟩
  · simp only [Handler.Logged, hp]
    exact ⟨exchange_nil, hwired⟩
  · intro octets ho
    rw [hds] at ho
    cases ho

/-- **An act puts its strokes on the log.** -/
theorem Logs.act (hl : Logs me l n t w log) (T : Transport σ) (hw : w.Sound me) (a : Act σ) :
    Logs me l n t (w.act T a) (log ++ w.strokesIn n a) := by
  have hdeals := act_deals T hw hl.place a
  have hplace := (act_change T hw a).place hw hl.place
  obtain ⟨task, wire, ht, hwire, hledger⟩ := hl.ledger
  generalize w.act T a = w' at hdeals hplace
  -- By what the act is for the connection.
  cases hdeals with
  | aside ha htask hwire' hds =>
      rw [strokesIn_of_aside hw hl.place ha, List.append_nil]
      refine ⟨hplace, ⟨task, wire, htask.trans ht, hwire'.trans hwire, ?_⟩, ?_⟩
      · rw [hds]
        exact hledger
      · rw [hds]
        exact hl.readOnce
  | remote what =>
      -- The remote end reads and writes at its end, and that is not on the record.
      have hwire' := (wire?_onWire w n n what.apply).trans (if_pos rfl)
      rw [hwire] at hwire'
      show Logs me l n t _ (log ++ [])
      rw [List.append_nil]
      exact ⟨hplace, ⟨task, what.apply wire, ht, hwire',
        hledger.of_record (record_apply wire what)⟩, hl.readOnce⟩
  | rest hf hn hwire' hrests =>
      rw [strokesIn_of_rests hf hwire' hrests, List.append_nil]
      exact hl
  | done hf ha =>
      rw [strokesIn_of_over (handler?_of_find? hf) ha, List.append_nil]
      exact hl
  | @move _ origin h wire' move hf hn hwire' hb =>
      rw [hf] at ht
      rw [hwire] at hwire'
      cases ht
      cases hwire'
      obtain ⟨hlink, hlogged⟩ := hledger
      obtain ⟨c, -, -, htends⟩ := hw.tends_on (handler?_of_find? hf) hn hwire
      subst hn
      have hturn := hb.turn htends.staged
      rw [strokesIn_of_brings hf rfl hwire hb]
      have hds : deedsOf { w with
          manager := w.manager.applyMove t origin h.number move
          deeds := w.deeds ++ (h.deeds w.manager.toNode move).map (h.number, ·) } h.number =
          w.deedsOf h.number ++ h.deeds w.manager.toNode move :=
        (deedsOf_append w _ _ _ _).trans (if_pos rfl)
      refine ⟨hplace, ⟨_, move.wire, Table.find?_put_self _ _ _, Table.find?_put_self _ _ _, ?_⟩,
        ?_⟩
      · rw [hds]
        exact ⟨hturn.link.1.trans hlink, hturn.logged htends.chronicle htends.wired hlogged⟩
      · rw [hds]
        exact Handler.Turn.readOnce htends.chronicle htends.wired hlogged hl.readOnce
  | @conclude origin h outcome hf hn ho =>
      rw [hf] at ht
      cases ht
      obtain ⟨rfl, hlogged⟩ := hledger
      rw [strokesIn_of_ended hf ho, List.append_nil]
      refine ⟨hplace, ⟨_, wire, Table.find?_put_self _ _ _, hwire, ?_⟩, hl.readOnce⟩
      simp only [Handler.Logged, Handler.outcome?_eq_some.mp ho] at hlogged
      exact hlogged
  | @cancel origin h wire' hf hn hwire' hbusy =>
      rw [hf] at ht
      rw [hwire] at hwire'
      cases ht
      cases hwire'
      obtain ⟨rfl, hlogged⟩ := hledger
      obtain ⟨c, -, -, htends⟩ := hw.tends_on (handler?_of_find? hf) hn hwire
      subst hn
      rw [strokesIn_of_cancel hf rfl hbusy]
      refine ⟨hplace, ⟨_, (h.cancel w.manager.toNode wire).wire, Table.find?_put_self _ _ _,
        Table.find?_put_self _ _ _, ?_⟩, ?_⟩
      · have hspent := Handler.cancel_logged w.manager.toNode htends.staged htends.chronicle
          htends.wired hlogged
        obtain ⟨outcome, ho, hlink⟩ := Handler.cancel_ended w.manager.toNode wire h
        simp only [Handler.Logged, ho, hlink] at hspent
        exact hspent
      · intro octets ho
        rw [taken_append, hl.readOnce octets ho]
        unfold Handler.parting
        split
        · exact List.append_nil _
        · exact List.append_nil _

theorem Logs.run (hl : Logs me l n t w log) (T : Transport σ) (hw : w.Sound me)
    (acts : List (Act σ)) : Logs me l n t (w.run T acts) (log ++ w.strokes T n acts) := by
  induction acts generalizing w log with
  | nil =>
      show Logs me l n t w (log ++ [])
      rw [List.append_nil]
      exact hl
  | cons a rest ih =>
      have hnext := ih (hl.act T hw a) ((act_change T hw a).sound hw)
      rw [List.append_assoc] at hnext
      exact hnext

/-! ## §4. What a log says. -/

/-- How far a link is with its wire, and what is on its log then. -/
inductive Standing (me : Identity) (l : Link) (n : Nat) (w : World σ) (log : List Stroke) : Prop
  /-- It is not handed over, and what went over the wire is on the log. -/
  | exchanging {wire : Wire} : ¬ w.Kept n → w.outcome? n = none → w.wire? n = some wire →
      Exchange log → wire.record = Stroke.record log →
      written log <+: (l.frame me).encode → Standing me l n w log
  /-- Its engine has the wire. -/
  | served : w.Kept n → w.outcome? n = none → Exchange log →
      written log = (l.frame me).encode → Standing me l n w log
  /-- It is at its end. -/
  | spent {wire : Wire} : w.wire? n = some wire →
      Handler.Spent (l.frame me).encode wire (w.deedsOf n) log → Standing me l n w log

/-- Every link is at one of these points. -/
theorem Logs.standing (hl : Logs me l n t w log) (hw : w.Sound me) : Standing me l n w log := by
  obtain ⟨⟨origin, activity⟩, wire, ht, hwire, hledger⟩ := hl.ledger
  cases activity with
  | handling h =>
      obtain ⟨rfl, hlogged⟩ := hledger
      have hh : w.handler? t = some h := handler?_of_find? ht
      obtain ⟨hn, hc⟩ := hw.number_of_place hl.place hh
      obtain ⟨c, -, -, htends⟩ := hw.tends_on hh hn hwire
      have hout : w.outcome? n = h.outcome? := hn ▸ hw.outcome_of_handler hh
      cases ho : h.isOpen with
      | true =>
          obtain ⟨hex, hrec⟩ := (Handler.logged_iff_of_isOpen ho).mp hlogged
          exact .exchanging (hc.not_handedOver ho) (hout.trans (Handler.outcome?_of_isOpen ho))
            hwire hex hrec (htends.wired.written_prefix ho hrec)
      | false =>
          cases hover : h.outcome? with
          | none =>
              obtain ⟨hex, hframe⟩ := (Handler.logged_iff_of_served ho hover).mp hlogged
              exact .served (hc.handedOver ho hover) (hout.trans hover) hex hframe
          | some outcome =>
              simp only [Handler.Logged, Handler.outcome?_eq_some.mp hover] at hlogged
              exact .spent hwire hlogged
  | done outcome => exact .spent hwire hledger
  | calling target => exact hledger.elim
  | dialling target options => exact hledger.elim

/-- What a link wrote is a beginning of its frame. -/
theorem Logs.written_prefix (hl : Logs me l n t w log) (hw : w.Sound me) :
    written log <+: (l.frame me).encode := by
  cases hl.standing hw with
  | exchanging _ _ _ _ _ hf => exact hf
  | served _ _ _ hf => exact hf ▸ List.prefix_rfl
  | spent _ hs => exact hs.written_prefix

/-- A link that was handed over has written all of its frame. -/
theorem Logs.written_of_kept (hl : Logs me l n t w log) (hw : w.Sound me) (hk : w.Kept n) :
    written log = (l.frame me).encode := by
  cases hl.standing hw with
  | exchanging hn => exact absurd hk hn
  | served _ _ _ hf => exact hf
  | spent _ hs =>
      cases hs with
      | handedOver _ _ hf => exact hf
      | closed hn => exact absurd hk hn
      | dropped hn => exact absurd hk hn

/-- How a log ends: not yet, or with a close, or with a drop. -/
inductive Ends : List Stroke → Prop
  | notYet : Ends []
  | closed : Ends [.shutDown, .drop]
  | dropped : Ends [.drop]

/-- A link reads and writes, and then it closes or drops its wire, if it was not
handed over.  Whoever has ended without a hand-over has done so. -/
theorem Logs.shape (hl : Logs me l n t w log) (hw : w.Sound me) :
    ∃ exchange tail, log = exchange ++ tail ∧ Exchange exchange ∧ Ends tail ∧
      (w.Kept n → tail = []) ∧ ((w.outcome? n).isSome = true → ¬ w.Kept n → tail ≠ []) := by
  -- Before its end, a link has only read and written.
  have hgoing : Exchange log → w.outcome? n = none →
      ∃ exchange tail, log = exchange ++ tail ∧ Exchange exchange ∧ Ends tail ∧
        (w.Kept n → tail = []) ∧ ((w.outcome? n).isSome = true → ¬ w.Kept n → tail ≠ []) := by
    intro hex hnone
    refine ⟨log, [], (List.append_nil _).symm, hex, .notYet, fun _ => rfl, ?_⟩
    intro hsome
    rw [hnone] at hsome
    cases hsome
  cases hl.standing hw with
  | exchanging _ hnone _ hex => exact hgoing hex hnone
  | served _ hnone hex => exact hgoing hex hnone
  | spent _ hs =>
      cases hs with
      | handedOver hd he hf =>
          exact ⟨log, [], (List.append_nil _).symm, he, .notYet, fun _ => rfl,
            fun _ hk => absurd hd hk⟩
      | closed hd he hf hr =>
          exact ⟨_, _, rfl, he, .closed, fun hk => absurd hk hd, fun _ _ => by simp⟩
      | dropped hd he hf hr =>
          exact ⟨_, _, rfl, he, .dropped, fun hk => absurd hk hd, fun _ _ => by simp⟩

/-- So it asks for an orderly close once at most. -/
theorem Logs.closes_le (hl : Logs me l n t w log) (hw : w.Sound me) : closes log ≤ 1 := by
  obtain ⟨exchange, tail, rfl, hex, hends, -⟩ := hl.shape hw
  rw [closes_append, hex.closes_eq, Nat.zero_add]
  cases hends <;> decide

/-- Up to the hand-over, what is on the log is what is on the record of the
wire. -/
theorem Logs.record (hl : Logs me l n t w log) (hw : w.Sound me) (hk : ¬ w.Kept n) :
    ∃ wire, w.wire? n = some wire ∧ wire.record = Stroke.record log := by
  cases hl.standing hw with
  | exchanging _ _ hwire _ hrec => exact ⟨_, hwire, hrec⟩
  | served hkept => exact absurd hkept hk
  | spent hwire hs =>
      refine ⟨_, hwire, ?_⟩
      cases hs with
      | handedOver hd => exact absurd hd hk
      | closed hd he hf hr => exact hr
      | dropped hd he hf hr => exact hr

/-- Whoever waits for the peer's frame has written all of its own. -/
theorem Logs.written_of_receives (hl : Logs me l n t w log) (hw : w.Sound me) {h : Handler}
    {due : Nat} {got : Bytes} (hh : w.handler? t = some h) (hp : h.phase = .receiving due got) :
    written log = (l.frame me).encode := by
  obtain ⟨⟨origin, activity⟩, wire, ht, hwire, hledger⟩ := hl.ledger
  rw [handler?_of_find? ht] at hh
  cases activity with
  | handling handler =>
      cases hh
      obtain ⟨rfl, hlogged⟩ := hledger
      have hh : w.handler? t = some h := handler?_of_find? ht
      have hn := (hw.number_of_place hl.place hh).1
      obtain ⟨c, -, -, htends⟩ := hw.tends_on hh hn hwire
      have hwired := htends.wired
      simp only [Handler.Wired, hp] at hwired
      simp only [Handler.Logged, hp] at hlogged
      exact (sent_of_record hlogged.2).symm.trans hwired.2
  | _ => cases hh

/-! ## §5. Links that leave their wire alone. -/

/-- The task does not run a handler that still has its connection. -/
def Quiet (w : World σ) (t : Nat) : Prop := ∀ h, w.handler? t = some h → h.isOpen = false

theorem Quiet.strokesIn (hq : w.Quiet t) (hw : w.Sound me) (hp : w.place n = .taken t)
    (a : Act σ) : w.strokesIn n a = [] := by
  have hopen : ∀ s h, w.handler? s = some h → h.number = n →
      h.isOpen = false ∧ h.Staged := by
    intro s h hh hn
    obtain ⟨c, wire, -, -, -, htends⟩ := hw.tends hh
    have hs := hw.task_of_number hp hh hn
    exact ⟨hq h (hs ▸ hh), htends.staged⟩
  unfold World.strokesIn
  split
  · split
    · next h wire hh hwire =>
        split
        · next hif => exact Handler.strokes_of_not_isOpen (hopen _ h hh hif.1).1
        · rfl
    · rfl
  · split
    · next h hh =>
        split
        · next hif =>
            obtain ⟨ho, hs⟩ := hopen _ h hh hif.1
            exact hs.parting_of_not_isOpen ho
        · rfl
    · rfl
  · rfl

/-- There is no way back to the exchange. -/
theorem Quiet.act (hq : w.Quiet t) (T : Transport σ) (hw : w.Sound me)
    (hp : w.place n = .taken t) (a : Act σ) : (w.act T a).Quiet t := by
  intro h' hh'
  rcases handler?_act T hw hp a hh' with hh | ⟨h, wire, move, hh, -, hturn, rfl⟩
  · exact hq h' hh
  · exact hturn.not_isOpen (hq h hh)

/-- **Whoever has handed over or closed makes no further stroke.** -/
theorem Quiet.strokes (hq : w.Quiet t) (T : Transport σ) (hw : w.Sound me)
    (hp : w.place n = .taken t) (acts : List (Act σ)) : w.strokes T n acts = [] := by
  induction acts generalizing w with
  | nil => rfl
  | cons a rest ih =>
      have hc := act_change T hw a
      show w.strokesIn n a ++ (w.act T a).strokes T n rest = []
      rw [hq.strokesIn hw hp, ih (hq.act T hw hp a) (hc.sound hw) (hc.place hw hp)]
      rfl

/-- A link that was handed over has left its wire alone since. -/
theorem quiet_of_kept (hw : w.Sound me) (hp : w.place n = .taken t) (hk : w.Kept n) :
    w.Quiet t := by
  intro h hh
  obtain ⟨-, hc⟩ := hw.number_of_place hp hh
  by_contra ho
  rw [Bool.not_eq_false] at ho
  exact hc.not_handedOver ho hk

/-- So has one that dropped it. -/
theorem Logs.quiet_of_drop (hl : Logs me l n t w log) (hd : Stroke.drop ∈ log) : w.Quiet t := by
  intro h hh
  obtain ⟨task, wire, ht, hwire, hledger⟩ := hl.ledger
  rw [handler?_of_find? ht] at hh
  obtain ⟨origin, activity⟩ := task
  cases activity with
  | handling handler =>
      cases hh
      by_contra ho
      rw [Bool.not_eq_false] at ho
      exact ((Handler.logged_iff_of_isOpen ho).mp hledger.2).1.not_drop hd
  | _ => cases hh

/-! ## §6. All runs. -/

/-- A task waits for the peer's frame. -/
def Receives (w : World σ) (t : Nat) : Prop :=
  ∃ h due got, w.handler? t = some h ∧ h.phase = .receiving due got

/-- A connection is with an engine. -/
def Tunnels (w : World σ) (n : Nat) : Prop :=
  ∃ t h entry session, w.handler? t = some h ∧ h.number = n ∧
    h.phase = .tunnelling entry session

/-- How often an orderly close was asked for at this end of a connection. -/
def closesAt (w : World σ) (n : Nat) : Nat := ((w.wire? n).map Wire.closes).getD 0

/-- **But for what the remote end and an engine do, a connection's wire changes
just by the strokes of its link.** -/
theorem wire?_act (T : Transport σ) (hw : w.Sound me) (hp : w.place n = .taken t)
    (hr : ∀ what, a ≠ .remote n what) (ht : ¬ w.Tunnels n) :
    (w.act T a).wire? n = (w.wire? n).map (applyAll · (w.strokesIn n a)) := by
  have hdeals := act_deals T hw hp a
  have hsame : ∀ o : Option Wire, o = o.map (applyAll · []) := by
    intro o
    cases o <;> rfl
  generalize w.act T a = w' at hdeals
  cases hdeals with
  | aside ha htask hwire hds =>
      rw [strokesIn_of_aside hw hp ha, hwire]
      exact hsame _
  | remote what => exact absurd rfl (hr what)
  | rest hf hn hwire hrests =>
      rw [strokesIn_of_rests hf hwire hrests]
      exact hsame _
  | done hf ha =>
      rw [strokesIn_of_over (handler?_of_find? hf) ha]
      exact hsame _
  | @move _ origin h wire move hf hn hwire hb =>
      have hh : w.handler? t = some h := handler?_of_find? hf
      obtain ⟨c, wire', -, -, -, htends⟩ := hw.tends hh
      rw [strokesIn_of_brings hf hn hwire hb, hwire]
      refine (Table.find?_put_self _ _ _).trans (congrArg some ?_)
      exact (hb.turn htends.staged).wire_eq fun entry session hphase =>
        ht ⟨t, h, entry, session, hh, hn, hphase⟩
  | @conclude origin h outcome hf hn ho =>
      rw [strokesIn_of_ended hf ho]
      exact hsame _
  | @cancel origin h wire hf hn hwire hbusy =>
      have hh : w.handler? t = some h := handler?_of_find? hf
      obtain ⟨c, wire', -, -, -, htends⟩ := hw.tends hh
      rw [strokesIn_of_cancel hf hn hbusy, hwire]
      refine (Table.find?_put_self _ _ _).trans (congrArg some ?_)
      cases hout : h.outcome? with
      | some outcome => simp [Handler.cancel, Handler.parting, hout, applyAll]
      | none =>
          have ho : h.isOpen = true := Handler.isOpen_of_waits hbusy hout
            fun entry session hphase => ht ⟨t, h, entry, session, hh, hn, hphase⟩
          simp [Handler.cancel, Handler.parting, hout, (htends.staged.holdsWire_eq hout).trans ho,
            applyAll, Stroke.apply]

/-- How a link behaves on its wire, from the start of its handler on. -/
structure Conduct (T : Transport σ) (me : Identity) (w : World σ) (t : Nat) (h : Handler)
    (acts : List (Act σ)) : Prop where
  /-- It writes a beginning of its frame and nothing else, -/
  frame : written (w.strokes T h.number acts) <+: (Frame.own me h.link.options.metric).encode
  /-- and the whole frame by the time at which it waits for the peer's. -/
  whole : ∀ before after, acts = before ++ after → (w.run T before).Receives t →
    written (w.strokes T h.number before) = (Frame.own me h.link.options.metric).encode
  /-- Up to the hand-over, this is all that is sent on the connection. -/
  sent : ¬ (w.run T acts).Kept h.number →
    (w.run T acts).sentAt h.number = written (w.strokes T h.number acts)
  /-- Up to the hand-over, the wire counts the orderly closes for which the link
  asked, and there is one at most. -/
  closes : ¬ (w.run T acts).Kept h.number →
    (w.run T acts).closesAt h.number = Stroke.closes (w.strokes T h.number acts) ∧
      (w.run T acts).closesAt h.number ≤ 1
  /-- It reads and writes, and then closes or drops the wire if it was not handed
  over; whoever has ended without a hand-over has done so. -/
  shape : ∃ exchange tail, w.strokes T h.number acts = exchange ++ tail ∧ Exchange exchange ∧
    Ends tail ∧ ((w.run T acts).Kept h.number → tail = []) ∧
    (((w.run T acts).outcome? h.number).isSome = true → ¬ (w.run T acts).Kept h.number →
      tail ≠ [])
  /-- Once it has dropped the wire, it leaves it alone. -/
  dropped : ∀ before after, acts = before ++ after →
    Stroke.drop ∈ w.strokes T h.number before →
    (w.run T before).strokes T h.number after = []
  /-- So it does once it is handed over, with all of its frame written. -/
  handedOver : ∀ before after, acts = before ++ after → (w.run T before).Kept h.number →
    written (w.strokes T h.number before) = (Frame.own me h.link.options.metric).encode ∧
    (w.run T before).strokes T h.number after = []
  /-- But for what the remote end and the engine do, the wire changes just by
  these strokes. -/
  faithful : ∀ before a after, acts = before ++ a :: after → (∀ what, a ≠ .remote h.number what) →
    ¬ (w.run T before).Tunnels h.number →
    ((w.run T before).act T a).wire? h.number =
      ((w.run T before).wire? h.number).map
        (applyAll · ((w.run T before).strokesIn h.number a))

/-- A connection that no task has sees no stroke. -/
theorem strokesIn_of_idle (hw : w.Sound me) (hn : ∀ s, w.place n ≠ .taken s) (a : Act σ) :
    w.strokesIn n a = [] := by
  have hnumber : ∀ s h, w.handler? s = some h → h.number ≠ n := by
    rintro s h hh rfl
    exact hn s (hw.holders s h hh)
  unfold strokesIn
  split
  · split
    · next h wire hh hwire => exact if_neg fun hif => hnumber _ h hh hif.1
    · rfl
  · split
    · next h hh => exact if_neg fun hif => hnumber _ h hh hif.1
    · rfl
  · rfl

theorem strokes_of_idle (T : Transport σ) (hw : w.Sound me) (acts : List (Act σ))
    (hn : ∀ before after, acts = before ++ after → ∀ s, (w.run T before).place n ≠ .taken s) :
    w.strokes T n acts = [] := by
  induction acts generalizing w with
  | nil => rfl
  | cons a rest ih =>
      show w.strokesIn n a ++ (w.act T a).strokes T n rest = []
      rw [strokesIn_of_idle hw (hn [] _ rfl) a]
      refine ih ((act_change T hw a).sound hw) ?_
      intro before after he
      exact hn (a :: before) after (congrArg (a :: ·) he)

/-- From its start on, a handler behaves as laid down in `Conduct`. -/
theorem conduct_of_fresh (T : Transport σ) (hw : w.Sound me) {h : Handler}
    (hh : w.handler? t = some h) (hp : h.phase = .fresh) (acts : List (Act σ)) :
    Conduct T me w t h acts := by
  have hstart := logs_of_fresh hw hh hp
  have hlogs : ∀ acts, Logs me h.link h.number t (w.run T acts) (w.strokes T h.number acts) :=
    fun acts => hstart.run T hw acts
  constructor
  case frame => exact Logs.written_prefix (hlogs acts) (hw.run T acts)
  case whole =>
      rintro before after - ⟨h', due, got, hh', hphase⟩
      exact (hlogs before).written_of_receives (hw.run T before) hh' hphase
  case sent =>
      intro hk
      obtain ⟨wire, hwire, hrec⟩ := (hlogs acts).record (hw.run T acts) hk
      unfold sentAt
      rw [hwire]
      exact sent_of_record hrec
  case closes =>
      intro hk
      have hle := (hlogs acts).closes_le (hw.run T acts)
      obtain ⟨wire, hwire, hrec⟩ := (hlogs acts).record (hw.run T acts) hk
      have hcloses : (w.run T acts).closesAt h.number =
          Stroke.closes (w.strokes T h.number acts) := by
        unfold closesAt
        rw [hwire]
        exact closes_of_record hrec
      exact ⟨hcloses, le_of_eq_of_le hcloses hle⟩
  case shape => exact (hlogs acts).shape (hw.run T acts)
  case dropped =>
      intro before after _ hd
      exact ((hlogs before).quiet_of_drop hd).strokes T (hw.run T before) (hlogs before).place after
  case handedOver =>
      intro before after _ hk
      have hw' := hw.run T before
      have hplace := (hlogs before).place
      exact ⟨(hlogs before).written_of_kept hw' hk,
        (quiet_of_kept hw' hplace hk).strokes T hw' hplace after⟩
  case faithful =>
      intro before a after _ hr ht
      exact wire?_act T (hw.run T before) (hlogs before).place hr ht

/-- **What a link puts on its wire.**  In every run of a node,

  • a connection that no task has sees no stroke of a link,
  • a connection that a task has was given to a fresh handler at one moment of
    the run; there was no stroke before, and from then on the link behaves on
    the wire as laid down in `Conduct`. -/
theorem link_conduct (T : Transport σ) (me : Identity) (settings : Settings) (engine : Engine)
    (state : σ) :
    let w := start me settings engine state
    ∀ acts n,
      ((∀ t, (w.run T acts).place n ≠ .taken t) → w.strokes T n acts = []) ∧
      ∀ t, (w.run T acts).place n = .taken t →
        ∃ before after h, acts = before ++ after ∧ w.strokes T n before = [] ∧
          (w.run T before).handler? t = some h ∧ h.number = n ∧ h.phase = .fresh ∧
          Conduct T me (w.run T before) t h after := by
  intro w acts n
  have hw : w.Sound me := sound_start me settings engine state
  have hunmade : ∀ t, w.place n ≠ .taken t := by
    intro t ht
    cases ht
  constructor
  · intro hn
    refine strokes_of_idle T hw acts ?_
    rintro before after rfl s hs
    -- Whoever gets a connection keeps it.
    rw [run_append] at hn
    exact hn s (place_run (hw.run T before) hs after)
  · intro t hp
    obtain ⟨before, a, after, h, rfl, hbefore, hh, hnum, hfresh⟩ := taken_run T hw hunmade hp
    refine ⟨before ++ [a], after, h, by simp, ?_, hh, hnum, hfresh,
      conduct_of_fresh T (hw.run T (before ++ [a])) hh hfresh after⟩
    rw [strokes_append, strokes_of_idle T hw before hbefore]
    show (w.run T before).strokesIn n a ++ [] = []
    rw [strokesIn_of_idle (hw.run T before) (hbefore before [] (by simp)) a]
    rfl

/-! ## §7. A connection that is answered. -/

/-- The strokes on a connection that is accepted, answered and handed over. -/
theorem link_conduct_answer :
    (∃ before after h, acceptAndSend ++ answer = before ++ after ∧
      scriptedNode.strokes Script.transport 0 before = [] ∧
      (scriptedNode.run Script.transport before).handler? 0 = some h ∧ h.number = 0 ∧
      h.phase = .fresh ∧
      Conduct Script.transport (.replicate 0xaa) (scriptedNode.run Script.transport before) 0 h
        after) ∧
    scriptedNode.strokes Script.transport 0 (acceptAndSend ++ answer) =
      [.write (Frame.own (.replicate 0xaa) 0).encode,
        .read (Frame.own (.replicate 0xbb) 3).encode] := by
  have hplace : (scriptedNode.run Script.transport (acceptAndSend ++ answer)).place 0 =
      .taken 0 := by
    decide +kernel
  have h := link_conduct Script.transport (.replicate 0xaa) {} .collect {}
  exact ⟨(h (acceptAndSend ++ answer) 0).2 0 hplace, by decide +kernel⟩

end World

end LinkLayer

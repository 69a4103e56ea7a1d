/-
  LinkLayer.Proofs.World.Deadlines
  ────────────────────────────────
  **HANDSHAKES END IN TIME.**

  A handler begins at a moment of a run, with the deadline of the settings at
  that moment.  From then on three timers follow each other: one for sending,
  one for receiving, one for the close.  Whatever the remote end does, and
  whatever else happens to the node,

    • `Deadlines` — each timer runs from the moment at which its part of the
      handshake began, and a timeout comes only where the wire holds up the
      transfer,
    • `OnTime` — if the clock passes no timer before it has run, a handshake
      takes at most twice the deadline, and the close five seconds more.
-/
import LinkLayer.Proofs.World.Moments

namespace LinkLayer

namespace World

variable {σ : Type} {T : Transport σ} {me : Identity} {w : World σ} {a : Act σ}
  {acts after : List (Act σ)} {n t : Nat}

/-! ## §1. Deadlines. -/

section Start

variable {h : Handler}

/-- The first move of a handler. -/
theorem begins (T : Transport σ) (hw : w.Sound me) (hh : w.handler? t = some h)
    (hf : h.phase = .fresh) :
    ∃ wire move, h.Turn w.manager.toNode wire move ∧
      (w.act T (.task t)).handler? t = some move.handler := by
  obtain ⟨_, wire, -, hwire, -, -⟩ := hw.tends hh
  have hmove : h.step w.manager.toNode wire = some (h.begin w.manager.toNode wire) := by
    rw [Handler.step, hf]
  have hmoment := act_task T hw hh hwire hmove
  exact ⟨wire, _, hmoment.turn, hmoment.next⟩

/-- **The timer for sending runs from the first move.** -/
theorem due_of_sending (hw : w.Sound me) (hh : w.handler? t = some h) (hf : h.phase = .fresh)
    {h' : Handler} (hh' : (w.run T (.task t :: after)).handler? t = some h')
    (hs : h'.isSending = true) :
    h'.settings = w.manager.settings ∧
      h'.due? = some (w.manager.now + w.manager.settings.handshakeTimeout) := by
  obtain ⟨wire, move, hturn, hh₁⟩ := begins T hw hh hf
  have hlater := later_run (T := T) ((act_change T hw _).sound hw) hh₁ hh'
  have hle := hlater.part
  have hpart := Handler.part_of_sending hs
  rcases hturn.of_fresh hf with hc | ⟨hs₁, hsettings, hdue⟩
  · -- Who closes does not send any more.
    rw [Handler.part_of_closing hc] at hle
    omega
  · have hpart₁ := Handler.part_of_sending hs₁
    exact ⟨(hlater.settings (by omega)).trans hsettings, (hlater.due (by omega)).trans hdue⟩

/-- **The timer for receiving runs from the moment at which the frame was
flushed.** -/
theorem due_of_receiving (hw : w.Sound me) (hh : w.handler? t = some h) (hf : h.phase = .fresh)
    {l : List (Act σ)}
    (hb : Becomes T w (.task t :: after) (During Handler.isReceiving t) l) {h' : Handler}
    (hh' : (w.run T (.task t :: after)).handler? t = some h') (hr : h'.isReceiving = true) :
    h'.due? = some ((w.run T l).manager.now + w.manager.settings.handshakeTimeout) := by
  obtain ⟨a, l', h₁, wire, move, hacts, hh₁, hnot, -, hturn, hr₁, hnext⟩ :=
    hb.turn hw (hw.holders t h hh)
  obtain ⟨hs, hdue⟩ := hturn.receives hr₁ hnot
  -- Whoever sends has made its first move.
  cases l with
  | nil =>
      cases hh.symm.trans hh₁
      simp [Handler.isSending, hf] at hs
  | cons b l =>
      obtain ⟨rfl, -⟩ := List.cons.inj hacts
      rw [(due_of_sending hw hh hf hh₁ hs).1] at hdue
      rw [hacts, List.append_cons, run_append] at hh'
      have hlater := later_run (hw.run T _) hnext hh'
      have hpart := Handler.part_of_receiving hr
      have hpart₁ := Handler.part_of_receiving hr₁
      exact (hlater.due (by omega)).trans hdue

/-- **The timer for the close runs from the decision.** -/
theorem due_of_closing (hw : w.Sound me) (hp : w.place n = .taken t) {l : List (Act σ)}
    (hb : Becomes T w acts (During Handler.isClosing t) l) {h' : Handler}
    (hh' : (w.run T acts).handler? t = some h') (hc : h'.isClosing = true) :
    h'.due? = some ((w.run T l).manager.now + Handler.closeTimeout) := by
  obtain ⟨a, l', h₁, wire, move, hacts, hh₁, hnot, -, hturn, hc₁, hnext⟩ := hb.turn hw hp
  rw [hacts, List.append_cons, run_append] at hh'
  have hlater := later_run (hw.run T _) hnext hh'
  have hpart := Handler.part_of_closing hc
  have hpart₁ := Handler.part_of_closing hc₁
  exact (hlater.due (by omega)).trans (hturn.closes hc₁ hnot)

end Start

/-! ## §2. Timeouts. -/

/-- The link of a connection has decided to end with a failure. -/
def Fails (cause : LinkError) (n : Nat) (w : World σ) : Prop :=
  w.result? n = some (.failed cause)

/-- **Whoever fails by a timeout gave up at that moment.** -/
theorem Becomes.gaveUp (hw : w.Sound me) (hp : w.place n = .taken t) {cause : LinkError}
    (hc : cause = .sendTimeout ∨ cause = .recvTimeout) {l : List (Act σ)}
    (hb : Becomes T w acts (Fails cause n) l) :
    ∃ h wire, (w.run T l).handler? t = some h ∧ h.number = n ∧
      (w.run T l).wire? n = some wire ∧
      Handler.GivesUp (w.run T l).manager.toNode wire h.phase cause := by
  obtain ⟨a, l', -, hnot, hfails⟩ := hb
  have hw₁ := hw.run T l
  have hp₁ := place_run (T := T) hw hp l
  have hact : (w.run T (l ++ [a])) = (w.run T l).act T a := run_append T w l [a]
  rw [hact] at hfails
  generalize w.run T l = w₁ at hnot hfails hw₁ hp₁
  -- The result is the one that the task has, before the act and after it.
  have hplace := (act_change T hw₁ a).place hw₁ hp₁
  have hdeals := act_deals T hw₁ hp₁ a
  unfold Fails at hnot hfails
  generalize w₁.act T a = w₂ at hdeals hfails hplace
  cases hdeals with
  | aside ha htask hwire hds =>
      obtain ⟨_, _, task, ht, -, -⟩ := hw₁.task_of_place hp₁
      rw [result?_of_place hp₁ ht] at hnot
      rw [result?_of_place hplace (htask.trans ht)] at hfails
      exact absurd hfails hnot
  | remote what => exact absurd hfails hnot
  | rest => exact absurd hfails hnot
  | done => exact absurd hfails hnot
  | @move _ origin h wire move hf hn hwire hb =>
      have hh : w₁.handler? t = some h := handler?_of_find? hf
      obtain ⟨_, _, -, -, -, htends⟩ := hw₁.tends hh
      rw [result?_of_place hp₁ hf] at hnot
      rw [result?_of_place hplace (Table.find?_put_self _ _ _)] at hfails
      exact ⟨h, wire, hh, hn, hwire, (hb.turn htends.staged).gaveUp hc hfails hnot⟩
  | @conclude origin h outcome hf hn ho =>
      rw [result?_of_place hp₁ hf] at hnot
      rw [result?_of_place hplace (Table.find?_put_self _ _ _)] at hfails
      have hresult : h.result? = some outcome := Handler.result_of_outcome ho
      exact absurd (hresult.trans hfails) hnot
  | @cancel origin h wire hf hn hwire hbusy =>
      rw [result?_of_place hp₁ hf] at hnot
      rw [result?_of_place hplace (Table.find?_put_self _ _ _)] at hfails
      rw [Handler.cancel_outcome] at hfails
      cases ho : h.outcome? with
      | some outcome =>
          rw [ho] at hfails
          exact absurd ((Handler.result_of_outcome ho).trans hfails) hnot
      | none =>
          rw [ho] at hfails
          cases hfails

/-- A handler is in a part of its life, and its timer is due. -/
structure Expires (w : World σ) (n t : Nat) (p : Handler → Bool) (h : Handler) (wire : Wire)
    (due : Nat) : Prop where
  handler : w.handler? t = some h
  during : p h = true
  wire : w.wire? n = some wire
  timer : h.due? = some due
  due : due ≤ w.manager.now

/-- **The timeout of sending comes with the timer of sending, and the frame is
not sent then.** -/
theorem Becomes.unsent (hw : w.Sound me) (hp : w.place n = .taken t) {l : List (Act σ)}
    (hb : Becomes T w acts (Fails .sendTimeout n) l) :
    ∃ h wire due, (w.run T l).Expires n t Handler.isSending h wire due ∧
      h.Unsent me wire := by
  obtain ⟨h, wire, hh, hnum, hwire, hg⟩ := hb.gaveUp hw hp (.inl rfl)
  obtain ⟨_, _, -, htends⟩ := (hw.run T l).tends_on hh hnum hwire
  obtain ⟨hs, hunsent, due, hdue, hle⟩ := hg.unsent htends.wired
  exact ⟨h, wire, due, ⟨hh, hs, hwire, hdue, hle⟩, hunsent⟩

/-- **The timeout of receiving comes with the timer of receiving, and no frame
can be read then.** -/
theorem Becomes.unread (hw : w.Sound me) (hp : w.place n = .taken t) {l : List (Act σ)}
    (hb : Becomes T w acts (Fails .recvTimeout n) l) :
    ∃ h wire due, (w.run T l).Expires n t Handler.isReceiving h wire due ∧
      ¬ wire.GivesFrame := by
  obtain ⟨h, wire, hh, hnum, hwire, hg⟩ := hb.gaveUp hw hp (.inr rfl)
  obtain ⟨_, _, -, htends⟩ := (hw.run T l).tends_on hh hnum hwire
  obtain ⟨hr, hunread, due, hdue, hle⟩ := hg.unread htends.staged htends.wired
  exact ⟨h, wire, due, ⟨hh, hr, hwire, hdue, hle⟩, hunread⟩

/-- Transfers that the wire does not hold up, in the parts of a handler's life
before their end. -/
theorem lasting_takesFrame : Lasting fun _ h wire => h.part ≤ 1 → wire.TakesFrame where
  turn := by
    intro node wire h move ht hturn hpart
    have htakes := ht (Nat.le_trans hturn.later.part hpart)
    cases hturn with
    | send hp hwr => exact htakes.write hwr
    | receive hp => simp [Handler.part] at hpart
    | finish hp => simp [Handler.part] at hpart
    | carryOn hp => simp [Handler.part] at hpart
    | «return» hp => simp [Handler.part] at hpart
    | collapse hp => simp [Handler.part] at hpart
    | _ => exact htakes
  remote := fun what ht hpart => (ht hpart).apply what

theorem lasting_givesFrame : Lasting fun _ h wire => h.part ≤ 2 → wire.GivesFrame where
  turn := by
    intro node wire h move hg hturn hpart
    have hgives := hg (Nat.le_trans hturn.later.part hpart)
    cases hturn with
    | send hp hwr => exact hgives.write hwr
    | receive hp hl hr hb => exact hgives.read hr
    | finish hp => simp [Handler.part] at hpart
    | carryOn hp => simp [Handler.part] at hpart
    | «return» hp => simp [Handler.part] at hpart
    | collapse hp => simp [Handler.part] at hpart
    | _ => exact hgives
  remote := fun what hg hpart => (hg hpart).apply what

/-- What a wire offers at one time, it offers until the transfer is over. -/
theorem Lasting.offers {k : Nat} {Q : Wire → Prop}
    (hP : Lasting fun _ h wire => h.part ≤ k → Q wire) (hw : w.Sound me)
    (hp : w.place n = .taken t) {wire : Wire} (hwire : w.wire? n = some wire) (hq : Q wire)
    {h : Handler} (hh : (w.run T acts).handler? t = some h) (hpart : h.part ≤ k) {wire' : Wire}
    (hwire' : (w.run T acts).wire? n = some wire') : Q wire' := by
  refine hP.run T hw hp (fun _ _ _ _ _ _ _ hl => hl) ?_ h wire' hh hwire' hpart
  intro _ wire₀ _ hwire₀ _
  cases hwire.symm.trans hwire₀
  exact hq

/-- **A frame that the wire takes at one time does not run into the timeout
later.** -/
theorem not_fails_of_takesFrame (hw : w.Sound me) (hp : w.place n = .taken t) {wire : Wire}
    (hwire : w.wire? n = some wire) (ht : wire.TakesFrame) (hn : ¬ Fails .sendTimeout n w) :
    ¬ Fails .sendTimeout n (w.run T acts) := by
  intro hfails
  obtain ⟨l, hb⟩ := exists_becomes hn hfails
  obtain ⟨h, wire', due, he, hunsent⟩ := hb.unsent hw hp
  have hpart := Nat.le_of_eq (Handler.part_of_sending he.during)
  exact hunsent.not_takesFrame
    (lasting_takesFrame.offers hw hp hwire ht he.handler hpart he.wire)

/-- **A frame that is there at one time, or is known not to come, does not run
into the timeout later.** -/
theorem not_fails_of_givesFrame (hw : w.Sound me) (hp : w.place n = .taken t) {wire : Wire}
    (hwire : w.wire? n = some wire) (hg : wire.GivesFrame) (hn : ¬ Fails .recvTimeout n w) :
    ¬ Fails .recvTimeout n (w.run T acts) := by
  intro hfails
  obtain ⟨l, hb⟩ := exists_becomes hn hfails
  obtain ⟨h, wire', due, he, hunread⟩ := hb.unread hw hp
  have hpart := Nat.le_of_eq (Handler.part_of_receiving he.during)
  exact hunread (lasting_givesFrame.offers hw hp hwire hg he.handler hpart he.wire)

/-! ## §3. Timers and the clock. -/

/-- The timer of a task has run if it is due: the task has no move to make. -/
def timerRan (T : Transport σ) (t : Nat) (w : World σ) : Bool :=
  (w.handler? t).all fun h => h.due?.all fun due =>
    decide (w.manager.now < due) || (w.manager.stepTask T t).isNone

/-- As far as a task is concerned, the clock may go on to a time: its handler
waits, and its timer is not passed. -/
def mayPass (w : World σ) (t now : Nat) : Bool :=
  decide (now ≤ w.manager.now) ||
    (w.handler? t).all fun h => !h.isBusy && h.due?.all fun due => decide (now ≤ due)

/-- In a run, the clock never passes the timer of a task. -/
def keepsTime (T : Transport σ) (t : Nat) (w : World σ) : List (Act σ) → Bool
  | [] => true
  | a :: rest =>
      (match a with
        | .clock now => w.mayPass t now
        | _ => true) && keepsTime T t (w.act T a) rest

theorem keepsTime_append (l l' : List (Act σ)) :
    w.keepsTime T t (l ++ l') = (w.keepsTime T t l && (w.run T l).keepsTime T t l') := by
  induction l generalizing w with
  | nil => rfl
  | cons a rest ih =>
      show (_ && keepsTime T t (w.act T a) (rest ++ l')) = _
      rw [ih, ← Bool.and_assoc]
      rfl

/-- **A timer that has run is not due**: whoever has one that is due can
move. -/
theorem Sound.not_due (hw : w.Sound me) {h : Handler} (hh : w.handler? t = some h)
    (hr : w.timerRan T t = true) {due : Nat} (hd : h.due? = some due) :
    w.manager.now < due := by
  by_contra hle
  obtain ⟨_, wire, -, hwire, -, -⟩ := hw.tends hh
  obtain ⟨move, hmove⟩ := Handler.step_of_due w.manager.toNode wire hd (Nat.le_of_not_lt hle)
  obtain ⟨origin, ht⟩ := find?_of_handler? hh
  have ho : h.outcome? = none := by
    unfold Handler.due? at hd
    unfold Handler.outcome?
    cases hp : h.phase <;> simp_all
  have hstep : (w.manager.stepTask T t).isNone = false := by
    have hfind : w.manager.wires.find? h.number = some wire := hwire
    simp [Manager.stepTask, Manager.stepHandler, ht, ho, hfind, hmove]
  simp [timerRan, hh, hd, hstep, hle] at hr

theorem ticks_schedule {start d now : Nat} (hm : w.mayPass t now = true) :
    w.Ticks (fun now h _ => h.Schedule start d now) t now := by
  intro h wire hh hs
  simp only [mayPass, hh, Option.all_some, Bool.or_eq_true, decide_eq_true_eq, Bool.and_eq_true,
    Bool.not_eq_true'] at hm
  rcases hm with hle | ⟨hb, hdue⟩
  · rw [Nat.max_eq_left hle]
    exact hs
  · refine hs.tick hb fun due hd => ?_
    rw [hd] at hdue
    simpa using hdue

/-- **Where the clock passes no timer, a handshake is on schedule.** -/
theorem schedule_run (hw : w.Sound me) {h : Handler} (hh : w.handler? t = some h)
    (hf : h.phase = .fresh) (hk : w.keepsTime T t (.task t :: after) = true) {h' : Handler}
    (hh' : (w.run T (.task t :: after)).handler? t = some h') :
    h'.Schedule w.manager.now w.manager.settings.handshakeTimeout
      (w.run T (.task t :: after)).manager.now := by
  obtain ⟨wire, move, hturn, hh₁⟩ := begins T hw hh hf
  have hchange := act_change T hw (.task t)
  have hw₁ := hchange.sound hw
  have hp := hw.holders t h hh
  let P : Nat → Handler → Wire → Prop := fun now h _ =>
    h.Schedule w.manager.now w.manager.settings.handshakeTimeout now
  have hP : Lasting P := ⟨fun hs ht => ht.schedule hs, fun _ hs => hs⟩
  -- The first move is on schedule, and all that follows keeps to it.
  have hfirst : (w.act T (.task t)).Holds P h.number t := by
    intro h₁ _ hh₁' _
    cases hh₁.symm.trans hh₁'
    have hnow : (w.act T (.task t)).manager.now = w.manager.now :=
      now_act T hw fun _ hc => nomatch hc
    show Handler.Schedule _ _ (w.act T (.task t)).manager.now _
    rw [hnow]
    exact hturn.on_schedule hf
  have hholds : ((w.act T (.task t)).run T after).Holds P h.number t := by
    refine hP.run T hw₁ (hchange.place hw hp) ?_ hfirst
    rintro l now l' rfl
    refine ticks_schedule ?_
    have hrest : (w.act T (.task t)).keepsTime T t (l ++ .clock now :: l') = true := by
      simpa [keepsTime] using hk
    rw [keepsTime_append, Bool.and_eq_true] at hrest
    exact (Bool.and_eq_true_iff.mp hrest.2).1
  obtain ⟨_, wire', _, -, hwire', -⟩ := (hw.run T (.task t :: after)).attended _ _
    (place_run hw hp _)
  exact hholds h' wire' hh' hwire'

/-! ## §4. Handshakes. -/

/-- **The timers of a handshake, however the clock goes.**  The handler of the
task `t` and the connection `n` makes its first move with the first of the
acts, at the time `start` and under the deadline `d`. -/
structure Deadlines (T : Transport σ) (w : World σ) (n t start d : Nat)
    (acts : List (Act σ)) : Prop where
  sending : During Handler.isSending t (w.run T acts) → (w.run T acts).timerRan T t = true →
    (w.run T acts).manager.now < start + d
  receiving : During Handler.isReceiving t (w.run T acts) →
    ∃ time, (∀ s, Since T w acts (During Handler.isReceiving t) s ↔ s = time) ∧
      ((w.run T acts).timerRan T t = true → (w.run T acts).manager.now < time + d)
  closing : During Handler.isClosing t (w.run T acts) →
    ∃ time, (∀ s, Since T w acts (During Handler.isClosing t) s ↔ s = time) ∧
      ((w.run T acts).timerRan T t = true →
        (w.run T acts).manager.now < time + Handler.closeTimeout)
  /-- The timeout comes when the timer is due, and the frame is not written and
  flushed then. -/
  sendTimeout : ∀ l, Becomes T w acts (Fails .sendTimeout n) l →
    start + d ≤ (w.run T l).manager.now ∧
      ∃ h wire, (w.run T l).handler? t = some h ∧ (w.run T l).wire? n = some wire ∧
        h.Unsent w.manager.identity wire
  /-- The timeout comes when the timer is due, and there is neither a frame nor
  an end of file nor an error to be read then. -/
  recvTimeout : ∀ l, Becomes T w acts (Fails .recvTimeout n) l →
    ∃ time wire, Since T w l (During Handler.isReceiving t) time ∧
      time + d ≤ (w.run T l).manager.now ∧
      (w.run T l).wire? n = some wire ∧ ¬ wire.GivesFrame
  /-- A wire that takes the frame at any time before keeps the link from that
  timeout. -/
  takesFrame : ∀ l l' wire, acts = l ++ l' → (w.run T l).wire? n = some wire →
    wire.TakesFrame → ¬ Fails .sendTimeout n (w.run T l) →
    ¬ Fails .sendTimeout n (w.run T acts)
  givesFrame : ∀ l l' wire, acts = l ++ l' → (w.run T l).wire? n = some wire →
    wire.GivesFrame → ¬ Fails .recvTimeout n (w.run T l) →
    ¬ Fails .recvTimeout n (w.run T acts)

/-- **A handshake whose timers are not missed is over in time.** -/
structure OnTime (T : Transport σ) (w : World σ) (n t start d : Nat)
    (acts : List (Act σ)) : Prop where
  receiving : ∀ time, Since T w acts (During Handler.isReceiving t) time → time ≤ start + d
  closing : ∀ time, Since T w acts (During Handler.isClosing t) time → time ≤ start + 2 * d
  /-- Whoever is not served has come to its end. -/
  ended : ∀ h, (w.run T acts).handler? t = some h → h.outcome? = none → h.stage ≠ .active →
    (w.run T acts).timerRan T t = true →
    (w.run T acts).manager.now < start + 2 * d + Handler.closeTimeout
  sendTimeout : ∀ l, Becomes T w acts (Fails .sendTimeout n) l →
    (w.run T l).manager.now = start + d
  recvTimeout : ∀ l time, Becomes T w acts (Fails .recvTimeout n) l →
    Since T w l (During Handler.isReceiving t) time → (w.run T l).manager.now = time + d

section Start

variable {h : Handler}

theorem not_during_of_fresh (hh : w.handler? t = some h) {p : Handler → Bool}
    (hp : p h = false) : ¬ During p t w := by
  rintro ⟨h', hh', hph'⟩
  cases hh.symm.trans hh'
  rw [hp] at hph'
  cases hph'

/-- Whatever a handler is not at first, it comes to be after the first act. -/
theorem Becomes.eq_cons {p : Handler → Bool} {q : World σ → Prop} {l : List (Act σ)}
    (hb : Becomes T w (a :: after) q l) (hn : ¬ During p t w) (hd : During p t (w.run T l)) :
    ∃ l₁ l', l = a :: l₁ ∧ after = l₁ ++ l' := by
  obtain ⟨b, l', hacts, -, -⟩ := hb
  cases l with
  | nil => exact absurd hd hn
  | cons c l₁ =>
      obtain ⟨rfl, htail⟩ := List.cons.inj hacts
      exact ⟨l₁, b :: l', rfl, htail⟩

/-- The time since which a handler is in a part of its life, if its timer tells
that time. -/
theorem since_iff {p : Handler → Bool} {k : Nat} (hn : ¬ During p t w)
    (hd : During p t (w.run T acts))
    (hdue : ∀ l h', Becomes T w acts (During p t) l → (w.run T acts).handler? t = some h' →
      p h' = true → h'.due? = some ((w.run T l).manager.now + k)) :
    ∃ time, (∀ s, Since T w acts (During p t) s ↔ s = time) ∧
      ∃ h', (w.run T acts).handler? t = some h' ∧ h'.due? = some (time + k) := by
  obtain ⟨l, hb⟩ := exists_becomes hn hd
  obtain ⟨h', hh', hp'⟩ := hd
  have hl := hdue l h' hb hh' hp'
  refine ⟨(w.run T l).manager.now, ?_, h', hh', hl⟩
  intro s
  constructor
  · rintro ⟨l', hb', rfl⟩
    -- Both moments have set the timer that there is.
    have hboth := (hdue l' h' hb' hh' hp').symm.trans hl
    exact Nat.add_right_cancel (Option.some.inj hboth)
  · rintro rfl
    exact ⟨l, hb, rfl⟩

/-- A handler that did nothing yet neither sends nor receives nor closes. -/
theorem not_during_of_phase (hh : w.handler? t = some h) (hf : h.phase = .fresh) :
    ¬ During Handler.isSending t w ∧ ¬ During Handler.isReceiving t w ∧
      ¬ During Handler.isClosing t w := by
  refine ⟨not_during_of_fresh hh ?_, not_during_of_fresh hh ?_, not_during_of_fresh hh ?_⟩
  · rw [Handler.isSending, hf]
  · rw [Handler.isReceiving, hf]
  · rw [Handler.isClosing, hf]

theorem Sound.deadlines (T : Transport σ) (hw : w.Sound me) (hh : w.handler? t = some h)
    (hf : h.phase = .fresh) (after : List (Act σ)) :
    w.Deadlines T h.number t w.manager.now w.manager.settings.handshakeTimeout
      (.task t :: after) := by
  have hp := hw.holders t h hh
  obtain ⟨hsending, hreceiving, hclosing⟩ := not_during_of_phase hh hf
  constructor
  case sending =>
    rintro ⟨h', hh', hs⟩ hr
    exact (hw.run T _).not_due hh' hr (due_of_sending hw hh hf hh' hs).2
  case receiving =>
    intro hd
    obtain ⟨time, hsince, h', hh', hdue⟩ := since_iff hreceiving hd
      fun l h' hb hh' hr => due_of_receiving hw hh hf hb hh' hr
    exact ⟨time, hsince, fun hr => (hw.run T _).not_due hh' hr hdue⟩
  case closing =>
    intro hd
    obtain ⟨time, hsince, h', hh', hdue⟩ := since_iff hclosing hd
      fun l h' hb hh' hc => due_of_closing hw hp hb hh' hc
    exact ⟨time, hsince, fun hr => (hw.run T _).not_due hh' hr hdue⟩
  case sendTimeout =>
    intro l hb
    obtain ⟨h', wire, due, he, hunsent⟩ := hb.unsent hw hp
    -- Its timer is the one that was set by the first move.
    obtain ⟨l₁, _, rfl, -⟩ := hb.eq_cons hsending ⟨h', he.handler, he.during⟩
    cases he.timer.symm.trans (due_of_sending hw hh hf he.handler he.during).2
    exact ⟨he.due, h', wire, he.handler, he.wire, hw.identity ▸ hunsent⟩
  case recvTimeout =>
    intro l hb
    obtain ⟨h', wire, due, he, hunread⟩ := hb.unread hw hp
    -- Its timer is the one that was set when it began to receive.
    obtain ⟨k, hk⟩ := exists_becomes hreceiving ⟨h', he.handler, he.during⟩
    obtain ⟨l₁, _, rfl, -⟩ := hb.eq_cons hreceiving ⟨h', he.handler, he.during⟩
    cases he.timer.symm.trans (due_of_receiving hw hh hf hk he.handler he.during)
    exact ⟨_, wire, ⟨k, hk, rfl⟩, he.due, he.wire, hunread⟩
  case takesFrame =>
    intro l l' wire hacts hwire ht hn
    rw [hacts, run_append]
    exact not_fails_of_takesFrame (hw.run T l) (place_run hw hp l) hwire ht hn
  case givesFrame =>
    intro l l' wire hacts hwire hg hn
    rw [hacts, run_append]
    exact not_fails_of_givesFrame (hw.run T l) (place_run hw hp l) hwire hg hn

theorem Sound.onTime (T : Transport σ) (hw : w.Sound me) (hh : w.handler? t = some h)
    (hf : h.phase = .fresh) (hk : w.keepsTime T t (.task t :: after) = true) :
    w.OnTime T h.number t w.manager.now w.manager.settings.handshakeTimeout
      (.task t :: after) := by
  have hp := hw.holders t h hh
  obtain ⟨hsending, hreceiving, -⟩ := not_during_of_phase hh hf
  -- At every moment after its first move the handler is on schedule.
  have hschedule : ∀ l l' h', after = l ++ l' →
      (w.run T (.task t :: l)).handler? t = some h' →
      h'.Schedule w.manager.now w.manager.settings.handshakeTimeout
        (w.run T (.task t :: l)).manager.now := by
    rintro l l' h' rfl hh'
    rw [← List.cons_append, keepsTime_append, Bool.and_eq_true] at hk
    exact schedule_run hw hh hf hk.1 hh'
  constructor
  case receiving =>
    rintro time ⟨l, hb, rfl⟩
    obtain ⟨a, l', h', wire, move, -, hh', hnot, -, hturn, hr, -⟩ := hb.turn hw hp
    have hs := (hturn.receives hr hnot).1
    obtain ⟨l₁, _, rfl, hafter⟩ := hb.eq_cons hsending ⟨h', hh', hs⟩
    exact (hschedule l₁ _ h' hafter hh').now_le_of_sending hs
  case closing =>
    rintro time ⟨l, hb, rfl⟩
    obtain ⟨a, l', h', wire, move, hacts, hh', hnot, -, hturn, hc, -⟩ := hb.turn hw hp
    cases l with
    | nil => exact Nat.le_add_right _ _
    | cons b l =>
        obtain ⟨rfl, hafter⟩ := List.cons.inj hacts
        exact hturn.now_le_of_closes (hschedule l _ h' hafter hh') hc hnot
  case ended =>
    intro h' hh' ho ha hr
    obtain ⟨_, _, -, -, -, htends⟩ := (hw.run T _).tends hh'
    have hs := hschedule after [] h' (List.append_nil after).symm hh'
    exact hs.now_lt htends.staged ho ha fun due hdue => (hw.run T _).not_due hh' hr hdue
  case sendTimeout =>
    intro l hb
    obtain ⟨h', wire, due, he, -⟩ := hb.unsent hw hp
    obtain ⟨l₁, _, rfl, hafter⟩ := hb.eq_cons hsending ⟨h', he.handler, he.during⟩
    cases he.timer.symm.trans (due_of_sending hw hh hf he.handler he.during).2
    exact Nat.le_antisymm ((hschedule l₁ _ h' hafter he.handler).now_le_due he.timer) he.due
  case recvTimeout =>
    rintro l time hb ⟨k, hbegan, rfl⟩
    obtain ⟨h', wire, due, he, -⟩ := hb.unread hw hp
    obtain ⟨l₁, _, rfl, hafter⟩ := hb.eq_cons hreceiving ⟨h', he.handler, he.during⟩
    cases he.timer.symm.trans (due_of_receiving hw hh hf hbegan he.handler he.during)
    exact Nat.le_antisymm ((hschedule l₁ _ h' hafter he.handler).now_le_due he.timer) he.due

end Start

/-- **Handshakes end in time.**  In every run of a node, a handler that has
begun made a first move.  From that move on, whatever connection it has and
whatever the remote end does, its timers are those of `Deadlines`, under the
deadline of the settings at that moment; and if the clock passes no timer
before it has run, it keeps to the bounds of `OnTime`. -/
theorem handshake_deadlines (T : Transport σ) (me : Identity) (settings : Settings)
    (engine : Engine) (state : σ) (acts : List (Act σ)) (t : Nat) :
    let node := start me settings engine state
    (∀ h, (node.run T acts).handler? t = some h → h.phase ≠ .fresh →
      ∃ before after h₀, acts = before ++ .task t :: after ∧
        (node.run T before).handler? t = some h₀ ∧ h₀.number = h.number ∧
        h₀.phase = .fresh) ∧
    (∀ before after h, acts = before ++ .task t :: after →
      (node.run T before).handler? t = some h → h.phase = .fresh →
      let w := node.run T before
      let d := w.manager.settings.handshakeTimeout
      w.Deadlines T h.number t w.manager.now d (.task t :: after) ∧
      (w.keepsTime T t (.task t :: after) = true →
        w.OnTime T h.number t w.manager.now d (.task t :: after))) := by
  intro node
  have hstart : node.Sound me := sound_start me settings engine state
  constructor
  · intro h hh hf
    have hunmade : ∀ s, node.place h.number ≠ .taken s := fun s hs => nomatch hs
    exact exists_first_move T hstart hunmade hh hf
  · intro before after h _ hh hf w d
    have hw : w.Sound me := hstart.run T before
    exact ⟨hw.deadlines T hh hf after, hw.onTime T hh hf⟩

/-- A connection with little room that cannot be closed is accepted. -/
def connecting : List (Act Script) :=
  [.make .tcp "peer" "near" "far" 8 { shutdownHangs := true }, .accept 0 false]

/-- A node that allows a handshake 300 milliseconds, with that connection. -/
def hurried : World Script :=
  (start (.replicate 0xaa) { handshakeTimeout := 300 } .collect {}).run Script.transport
    connecting

/-- The handler of that connection. -/
def hurriedHandler : Handler :=
  Manager.handlerFor ⟨0, .tcp, "peer", "near", "far"⟩ true false {}

/-- The remote end reads the frame at the last moment, and sends three octets
of its own. -/
def lastMoments : List (Act Script) :=
  [.task 0, .clock 300, .remote 0 (.read 8), .task 0, .remote 0 (.read 8), .task 0,
    .remote 0 (.read 8), .task 0, .remote 0 (.read 8), .task 0, .task 0, .task 0,
    .remote 0 (.write [1, 2, 3]), .task 0, .clock 600, .task 0, .clock 5599]

/-- The bounds are met: a handler that sends and receives to the end of its
deadlines is still closing in the last millisecond of its time. -/
theorem handshake_deadlines_latest :
    hurried.handler? 0 = some hurriedHandler ∧ hurriedHandler.phase = .fresh ∧
    hurried.keepsTime Script.transport 0 (.task 0 :: lastMoments) = true ∧
    hurried.Deadlines Script.transport 0 0 0 300 (.task 0 :: lastMoments) ∧
    hurried.OnTime Script.transport 0 0 0 300 (.task 0 :: lastMoments) ∧
    (hurried.run Script.transport (.task 0 :: lastMoments)).timerRan Script.transport 0 = true ∧
    (hurried.run Script.transport (.task 0 :: lastMoments)).manager.now =
      0 + 2 * 300 + Handler.closeTimeout - 1 ∧
    ((hurried.run Script.transport (.task 0 :: lastMoments)).handler? 0).map
      (fun h => (h.isClosing, h.outcome?, h.result?)) =
        some (true, none, some (.failed .recvTimeout)) := by
  have hk : hurried.keepsTime Script.transport 0 (.task 0 :: lastMoments) = true := by
    decide +kernel
  obtain ⟨hdeadlines, hon⟩ := (handshake_deadlines Script.transport (.replicate 0xaa)
    { handshakeTimeout := 300 } .collect {} (connecting ++ .task 0 :: lastMoments) 0).2
    connecting lastMoments hurriedHandler rfl rfl rfl
  exact ⟨rfl, rfl, hk, hdeadlines, hon hk, by decide +kernel, by decide +kernel,
    by decide +kernel⟩

end World

end LinkLayer

/-
  LinkLayer.Proofs.Link.Deadline
  ──────────────────────────────
  **A HANDLER AND ITS TIMERS.**

  A handler sends, receives, decides, and then closes or is served.  It never
  goes back (`Later`).  For sending, receiving and closing it has one timer
  each; a timer is set at the beginning of its part, and nothing that is
  written or read within that part sets it again.

  A transfer that the other end does not hold up never runs into its timer:

    • `Wire.TakesFrame` — a frame can be written and flushed at once, or an
      error is found at once,
    • `Wire.GivesFrame` — a frame, the end of file or an error can be read at
      once,
    • `GivesUp.unsent`, `GivesUp.unread` — the two timeouts of a handshake
      come on other wires only.

  `Schedule` bounds the time by the phase, if no timer is ever missed: one
  deadline for sending, one more for receiving, then the time of the close.
-/
import LinkLayer.Proofs.Link.Chronicle
import LinkLayer.Proofs.Link.Frame

namespace LinkLayer

/-! ## §1. Wires that do not hold up a transfer. -/

/-- So many octets bring the transfer of a frame to its end: they are all of
it, or a fault comes before its last one. -/
def Enough (fault : Option Fault) (count : Nat) : Prop :=
  frameLength ≤ count ∨ ∃ f, fault = some f ∧ f.after ≤ count

theorem Enough.mono {fault : Option Fault} {k n : Nat} (h : Enough fault k) (hkn : k ≤ n) :
    Enough fault n := by
  rcases h with hl | ⟨f, hf, hk⟩
  · exact .inl (Nat.le_trans hl hkn)
  · exact .inr ⟨f, hf, Nat.le_trans hk hkn⟩

/-- Where the fault has not come yet, it is all of the frame. -/
theorem Enough.length_le {fault : Option Fault} {k : Nat} (h : Enough fault k)
    (hf : Wire.failure? fault k = none) : frameLength ≤ k := by
  rcases h with hl | ⟨f, rfl, hk⟩
  · exact hl
  · simp [Wire.failure?, hk] at hf

namespace Wire

variable {w w' : Wire} {bs rest : Bytes} {limit : Nat}

/-- The frame can be written and flushed without the other end, or that
fails. -/
def TakesFrame (w : Wire) : Prop :=
  w.flush ≠ .wait ∧
    (w.outbound.closed = true ∨ Enough w.faults.write (w.sent.length + w.outbound.room))

/-- The other end has done its part for the receipt of a frame: it has written
one, or has closed, or what it wrote reaches to a fault. -/
def GivesFrame (w : Wire) : Prop :=
  w.inbound.closed = true ∨ Enough w.faults.read w.arrived.length

theorem write_wait (h : w.write bs = .wait) :
    failure? w.faults.write w.sent.length = none ∧ w.outbound.closed = false ∧
      w.outbound.room = 0 := by
  unfold write at h
  split at h
  · cases h
  · next hf =>
      split at h
      · cases h
      · next hc =>
          split at h
          · next hroom => exact ⟨hf, by simpa using hc, hroom⟩
          · cases h

theorem read_wait (h : w.read limit = .wait) :
    failure? w.faults.read w.taken.length = none ∧ w.inbound.closed = false ∧
      w.inbound.queued = [] := by
  unfold read at h
  split at h
  · cases h
  · next hf =>
      split at h
      · next hq =>
          split at h
          · cases h
          · next hc => exact ⟨hf, by simpa using hc, hq⟩
      · cases h

/-- A fault lets no more octets pass than are wanted. -/
theorem allowed_le (fault : Option Fault) (passed wanted : Nat) :
    allowed fault passed wanted ≤ wanted := by
  unfold allowed
  split <;> omega

/-- What is written takes the room that it needs, and no more. -/
theorem room_write (h : w.write bs = .done (rest, w')) :
    w'.sent.length + w'.outbound.room = w.sent.length + w.outbound.room ∧
      w'.outbound.closed = w.outbound.closed ∧ w'.faults = w.faults := by
  unfold write at h
  split at h
  · cases h
  · split at h
    · cases h
    · split at h
      · cases h
      · cases h
        -- As much is written as there is room for.
        have hn := allowed_le w.faults.write w.sent.length (min bs.length w.outbound.room)
        refine ⟨?_, rfl, rfl⟩
        simp only [Pipe.push, Pipe.room, List.length_append, List.length_take] at hn ⊢
        omega

theorem inbound_write (h : w.write bs = .done (rest, w')) :
    w'.inbound = w.inbound ∧ w'.faults = w.faults := by
  unfold write at h
  split at h
  · cases h
  · split at h
    · cases h
    · split at h
      · cases h
      · cases h
        exact ⟨rfl, rfl⟩

theorem closed_read (h : w.read limit = .done (bs, w')) :
    w'.inbound.closed = w.inbound.closed ∧ w'.faults = w.faults := by
  unfold read at h
  split at h
  · cases h
  · split at h
    · split at h
      · cases h
        exact ⟨rfl, rfl⟩
      · cases h
    · cases h
      exact ⟨rfl, rfl⟩

theorem TakesFrame.write (ht : w.TakesFrame) (h : w.write bs = .done (rest, w')) :
    w'.TakesFrame := by
  obtain ⟨hroom, hclosed, hfaults⟩ := room_write h
  unfold TakesFrame flush at *
  rw [hroom, hclosed, hfaults]
  exact ht

theorem GivesFrame.write (hg : w.GivesFrame) (h : w.write bs = .done (rest, w')) :
    w'.GivesFrame := by
  obtain ⟨hinbound, hfaults⟩ := inbound_write h
  unfold GivesFrame arrived at *
  rw [taken_write h, hinbound, hfaults]
  exact hg

theorem GivesFrame.read (hg : w.GivesFrame) (h : w.read limit = .done (bs, w')) :
    w'.GivesFrame := by
  obtain ⟨hclosed, hfaults⟩ := closed_read h
  unfold GivesFrame at *
  rw [hclosed, hfaults, arrived_read h]
  exact hg

/-- The other end can only make more room, or close. -/
theorem TakesFrame.apply (ht : w.TakesFrame) (what : RemoteAct) : (what.apply w).TakesFrame := by
  cases what with
  | write bs =>
      show (((w.remoteWrite bs).map (·.2)).getD w).TakesFrame
      unfold remoteWrite
      split <;> exact ht
  | read count =>
      refine ⟨ht.1, ht.2.imp id fun he => he.mono ?_⟩
      show w.sent.length + w.outbound.room ≤
        w.sent.length + (w.outbound.capacity - (w.outbound.queued.drop count).length)
      rw [List.length_drop]
      unfold Pipe.room
      omega
  | shutDown => exact ht
  | drop => exact ⟨ht.1, .inl rfl⟩

/-- The other end can only write more, or close. -/
theorem GivesFrame.apply (hg : w.GivesFrame) (what : RemoteAct) : (what.apply w).GivesFrame := by
  cases what with
  | write bs =>
      show (((w.remoteWrite bs).map (·.2)).getD w).GivesFrame
      unfold remoteWrite
      split
      · exact hg
      · refine hg.imp id fun he => he.mono ?_
        show w.arrived.length ≤ (w.taken ++ (w.inbound.queued ++ bs.take _)).length
        simp only [arrived, List.length_append]
        omega
  | read count => exact hg
  | shutDown => exact .inl rfl
  | drop => exact .inl rfl

end Wire

/-! ## §2. The parts of a handler's life. -/

namespace Handler

variable {node : Node} {wire : Wire} {h h' h'' : Handler} {move : Move}

def isSending (h : Handler) : Bool :=
  match h.phase with
  | .sending .. | .flushing _ => true
  | _ => false

def isReceiving (h : Handler) : Bool :=
  match h.phase with
  | .receiving .. => true
  | _ => false

/-- A handler has decided not to hand over, and closes the connection. -/
def isClosing (h : Handler) : Bool :=
  match h.phase with
  | .closing .. => true
  | _ => false

/-- The part of its life that a handler is in. -/
def part (h : Handler) : Nat :=
  match h.phase with
  | .fresh => 0
  | .sending .. | .flushing _ => 1
  | .receiving .. => 2
  | .received _ | .validated _ | .registered .. => 3
  | .tunnelling .. | .leaving .. => 4
  | .closing .. => 5
  | .ended _ => 6

theorem part_eq_zero : h.part = 0 ↔ h.phase = .fresh := by
  unfold part
  cases h.phase <;> simp

theorem part_of_sending (hs : h.isSending = true) : h.part = 1 := by
  unfold isSending at hs
  unfold part
  cases hp : h.phase <;> simp_all

theorem part_of_receiving (hr : h.isReceiving = true) : h.part = 2 := by
  unfold isReceiving at hr
  unfold part
  cases hp : h.phase <;> simp_all

theorem part_of_closing (hc : h.isClosing = true) : h.part = 5 := by
  unfold isClosing at hc
  unfold part
  cases hp : h.phase <;> simp_all

/-- What a handler is at a later time: in the same part of its life, with the
same timer, or in a later one; its settings are those with which it began. -/
structure Later (h h' : Handler) : Prop where
  part : h.part ≤ h'.part
  due : h'.part = h.part → h'.due? = h.due?
  settings : 0 < h.part → h'.settings = h.settings

theorem Later.refl (h : Handler) : h.Later h := ⟨Nat.le_refl _, fun _ => rfl, fun _ => rfl⟩

theorem Later.trans (h₁ : h.Later h') (h₂ : h'.Later h'') : h.Later h'' where
  part := Nat.le_trans h₁.part h₂.part
  due := by
    intro hpart
    have hle := h₁.part
    have hle' := h₂.part
    exact (h₂.due (by omega)).trans (h₁.due (by omega))
  settings := by
    intro hpos
    have hle := h₁.part
    exact (h₂.settings (by omega)).trans (h₁.settings hpos)

/-- **A turn does not set a timer again.** -/
theorem Turn.later (ht : Turn node wire h move) : h.Later move.handler := by
  cases ht with
  | giveUp hg =>
      -- Whoever gives up was sending or receiving.
      generalize hp : h.phase = phase at hg
      cases hg <;> constructor <;> simp [part, due?, closing, hp]
  | _ => constructor <;> simp_all [part, due?, closing]

/-- A handler that begins sends with a timer of its own, or closes. -/
theorem Turn.of_fresh (ht : Turn node wire h move) (hp : h.phase = .fresh) :
    move.handler.isClosing = true ∨
      move.handler.isSending = true ∧ move.handler.settings = node.settings ∧
        move.handler.due? = some (node.now + node.settings.handshakeTimeout) := by
  cases ht with
  | begin => exact .inr ⟨rfl, rfl, rfl⟩
  | refuse => exact .inl rfl
  | giveUp hg =>
      rw [hp] at hg
      cases hg
  | _ => simp_all

/-- A handler begins to receive when its frame is flushed, with a timer of its
own. -/
theorem Turn.receives (ht : Turn node wire h move) (hr : move.handler.isReceiving = true)
    (hn : h.isReceiving = false) :
    h.isSending = true ∧
      move.handler.due? = some (node.now + h.settings.handshakeTimeout) := by
  cases ht with
  | flush hp => exact ⟨by simp [isSending, hp], rfl⟩
  | _ => simp_all [isReceiving, closing]

/-- A handler begins to close with a timer of its own. -/
theorem Turn.closes (ht : Turn node wire h move) (hc : move.handler.isClosing = true)
    (hn : h.isClosing = false) : move.handler.due? = some (node.now + closeTimeout) := by
  cases ht <;> simp_all [isClosing, closing, due?]

/-! ## §3. Timeouts. -/

/-- The frame is not written and flushed, and the wire does not let that go
on. -/
def Unsent (me : Identity) (wire : Wire) (h : Handler) : Prop :=
  let frame := (h.link.frame me).encode
  (∃ unsent, unsent ≠ [] ∧ wire.sent ++ unsent = frame ∧ wire.write unsent = .wait) ∨
    wire.sent = frame ∧ wire.flush = .wait

/-- **Whoever gives up sending has not sent the frame when its timer is due.** -/
theorem GivesUp.unsent {me : Identity} (hg : GivesUp node wire h.phase .sendTimeout)
    (hw : h.Wired me wire) :
    h.isSending = true ∧ h.Unsent me wire ∧ ∃ due, h.due? = some due ∧ due ≤ node.now := by
  unfold Wired at hw
  generalize hp : h.phase = phase at hg hw
  cases hg with
  | @sendTimeout due unsent hu hwr hd =>
      exact ⟨by simp [isSending, hp], .inl ⟨unsent, hu, hw.2, hwr⟩, due, by simp [due?, hp], hd⟩
  | @flushTimeout due hf hd =>
      exact ⟨by simp [isSending, hp], .inr ⟨hw.2, hf⟩, due, by simp [due?, hp], hd⟩

/-- A wire that takes the frame does not leave it unsent. -/
theorem Unsent.not_takesFrame {me : Identity} (hu : h.Unsent me wire) : ¬ wire.TakesFrame := by
  rintro ⟨hflush, htakes⟩
  rcases hu with ⟨unsent, hne, hsent, hwr⟩ | ⟨-, hwait⟩
  · obtain ⟨hfail, hclosed, hroom⟩ := Wire.write_wait hwr
    rw [hclosed, hroom, Nat.add_zero] at htakes
    -- There is no room left, so the whole frame would have been sent.
    have hall := (htakes.resolve_left Bool.false_ne_true).length_le hfail
    have hlen := congrArg List.length hsent
    rw [Frame.length_encode, List.length_append] at hlen
    have hpos := List.length_pos_iff.mpr hne
    omega
  · exact hflush hwait

/-- **Whoever gives up receiving has a wire that gives no frame when its timer
is due.** -/
theorem GivesUp.unread {me : Identity} (hg : GivesUp node wire h.phase .recvTimeout)
    (hs : h.Staged) (hw : h.Wired me wire) :
    h.isReceiving = true ∧ ¬ wire.GivesFrame ∧ ∃ due, h.due? = some due ∧ due ≤ node.now := by
  unfold Wired at hw
  unfold Staged at hs
  generalize hp : h.phase = phase at hg hw hs
  cases hg with
  | @recvTimeout due got hl hr hd =>
      obtain ⟨hfail, hclosed, hq⟩ := Wire.read_wait hr
      refine ⟨by simp [isReceiving, hp], ?_, due, by simp [due?, hp], hd⟩
      rintro (hc | henough)
      · simp [hclosed] at hc
      · -- All that has arrived was read, and that is less than a frame.
        have harrived : wire.arrived = got := by simp [Wire.arrived, hq, hw.1]
        rw [harrived] at henough
        rw [hw.1] at hfail
        have hall := henough.length_le hfail
        have hle := hs.2.2
        omega

/-! ## §4. Timers that are due. -/

/-- **Whoever has a timer that is due can make a move.** -/
theorem step_of_due (node : Node) (wire : Wire) {due : Nat} (hd : h.due? = some due)
    (hle : due ≤ node.now) : ∃ move, h.step node wire = some move := by
  have htimeout : ∀ cause, ∃ move, h.orTimeout node wire due cause = some move :=
    fun cause => ⟨_, if_pos hle⟩
  unfold due? at hd
  cases hp : h.phase with
  | sending due' unsent =>
      rw [hp] at hd
      cases hd
      simp only [step, hp, send]
      split
      · exact ⟨_, rfl⟩
      · split
        · exact ⟨_, rfl⟩
        · exact ⟨_, rfl⟩
        · exact htimeout _
  | flushing due' =>
      rw [hp] at hd
      cases hd
      simp only [step, hp, flush]
      split
      · exact ⟨_, rfl⟩
      · exact ⟨_, rfl⟩
      · exact htimeout _
  | receiving due' got =>
      rw [hp] at hd
      cases hd
      simp only [step, hp, receive]
      split
      · exact ⟨_, rfl⟩
      · split
        · split <;> exact ⟨_, rfl⟩
        · exact ⟨_, rfl⟩
        · exact htimeout _
  | closing due' outcome =>
      rw [hp] at hd
      cases hd
      simp only [step, hp, shutDown]
      split
      · exact ⟨_, rfl⟩
      · exact ⟨_, rfl⟩
      · exact ⟨_, if_pos hle⟩
  | _ =>
      rw [hp] at hd
      cases hd

/-! ## §5. The schedule. -/

/-- The time at which a handler can be in its phase, if it began at `start`
with the deadline `d` and missed no timer. -/
def Schedule (start d now : Nat) (h : Handler) : Prop :=
  match h.phase with
  | .fresh => False
  | .sending due _ | .flushing due =>
      h.settings.handshakeTimeout = d ∧ due = start + d ∧ now ≤ due
  | .receiving due _ => due ≤ start + 2 * d ∧ now ≤ due
  | .received _ | .validated _ | .registered .. => now ≤ start + 2 * d
  | .closing due _ => due ≤ start + 2 * d + closeTimeout ∧ now ≤ due
  | .tunnelling .. | .leaving .. | .ended _ => True

variable {start d now : Nat}

/-- A handler that begins is on schedule. -/
theorem Turn.on_schedule (ht : Turn node wire h move) (hp : h.phase = .fresh) :
    move.handler.Schedule node.now node.settings.handshakeTimeout node.now := by
  cases ht with
  | begin => exact ⟨rfl, rfl, Nat.le_add_right _ _⟩
  | refuse =>
      simp only [Schedule, closing]
      omega
  | giveUp hg =>
      rw [hp] at hg
      cases hg
  | _ => simp_all

/-- To give up is on schedule. -/
theorem GivesUp.now_le {cause : LinkError} (hg : GivesUp node wire h.phase cause)
    (hs : h.Schedule start d node.now) : node.now ≤ start + 2 * d := by
  unfold Schedule at hs
  generalize h.phase = phase at hg hs
  cases hg <;> simp only at hs <;> omega

/-- **A turn keeps to the schedule.** -/
theorem Turn.schedule (ht : Turn node wire h move) (hs : h.Schedule start d node.now) :
    move.handler.Schedule start d node.now := by
  cases ht with
  | giveUp hg =>
      have hle := hg.now_le hs
      simp only [Schedule, closing]
      omega
  | _ => simp_all [Schedule, closing] <;> omega

/-- **So does the clock, where it passes no timer of a handler that waits.** -/
theorem Schedule.tick (hs : h.Schedule start d now) {now' : Nat} (hb : h.isBusy = false)
    (hd : ∀ due, h.due? = some due → now' ≤ due) : h.Schedule start d (max now now') := by
  unfold Schedule isBusy due? at *
  cases hp : h.phase <;> simp_all <;> omega

/-- A handler on schedule begins to receive before its first deadline is
over. -/
theorem Schedule.now_le_of_sending (hs : h.Schedule start d now) (hh : h.isSending = true) :
    now ≤ start + d := by
  unfold Schedule at hs
  unfold isSending at hh
  cases hp : h.phase <;> simp_all <;> omega

/-- A handler on schedule decides before its second deadline is over. -/
theorem Turn.now_le_of_closes (ht : Turn node wire h move)
    (hs : h.Schedule start d node.now) (hc : move.handler.isClosing = true)
    (hn : h.isClosing = false) : node.now ≤ start + 2 * d := by
  cases ht with
  | giveUp hg => exact hg.now_le hs
  | _ => simp_all [Schedule, isClosing, closing]

/-- A timer of a handler on schedule is not missed. -/
theorem Schedule.now_le_due (hs : h.Schedule start d now) {due : Nat}
    (hd : h.due? = some due) : now ≤ due := by
  unfold Schedule at hs
  unfold due? at hd
  cases hp : h.phase <;> simp_all

/-- **Whoever is on schedule and is not served has come to its end in time**,
unless there is a timer that is due. -/
theorem Schedule.now_lt (hs : h.Schedule start d now) (hst : h.Staged)
    (ho : h.outcome? = none) (ha : h.stage ≠ .active)
    (hd : ∀ due, h.due? = some due → now < due) : now < start + 2 * d + closeTimeout := by
  have hpos : 0 < closeTimeout := by decide
  unfold Schedule at hs
  unfold Staged at hst
  unfold outcome? at ho
  unfold due? at hd
  cases hp : h.phase <;> simp_all <;> omega

end Handler

end LinkLayer

/-
  LinkLayer.Proofs.Link.Stroke
  ────────────────────────────
  **WHAT A LINK ITSELF DOES WITH ITS WIRE.**

  A handler does four things to its wire: it writes octets, reads octets, asks
  for an orderly close, and drops it.  `strokes` says which of them are in a
  move, and a log of them says all that a link did to its wire so far.

    • `record_applyAll` — the wire keeps a record of the strokes: what was read
      and written, and how often a close was asked for,
    • `Turn.wire_eq` — but for what an engine does, a move changes the wire
      just by its strokes,
    • `Logged` — what the log is in each phase: reads and writes, that went
      over the wire as they are on the log, up to the hand-over or the close,
      and at the end a close or a drop (`Spent`),
    • `Turn.logged`, `cancel_logged` — all moves and cancellations keep it.
-/
import LinkLayer.Proofs.Link.Entry

namespace LinkLayer

/-! ## §1. Strokes. -/

/-- What a link can do with its wire. -/
inductive Stroke where
  | write (octets : Bytes)
  | read (octets : Bytes)
  /-- The orderly close is asked for, whatever comes of it. -/
  | shutDown
  | drop
  deriving Repr, DecidableEq

namespace Stroke

/-- What a stroke does to a wire. -/
def apply (wire : Wire) : Stroke → Wire
  | .write bs => { wire with outbound := wire.outbound.push bs, sent := wire.sent ++ bs }
  | .read bs => { wire with inbound := wire.inbound.drop bs.length, taken := wire.taken ++ bs }
  | .shutDown => wire.shutdown.2
  | .drop => wire.drop

/-- What several strokes do, one after the other. -/
def applyAll (wire : Wire) (log : List Stroke) : Wire := log.foldl apply wire

/-- The octets that are written in the strokes of a log. -/
def written (log : List Stroke) : Bytes :=
  log.flatMap fun
    | .write bs => bs
    | _ => []

/-- The octets that are read in the strokes of a log. -/
def taken (log : List Stroke) : Bytes :=
  log.flatMap fun
    | .read bs => bs
    | _ => []

/-- How often an orderly close is asked for in the strokes of a log. -/
def closes (log : List Stroke) : Nat := log.count .shutDown

/-- What a log leaves on the record of a wire. -/
def record (log : List Stroke) : Wire.Record := ⟨taken log, written log, closes log⟩

/-- A read or a write. -/
def isExchange : Stroke → Bool
  | .write _ | .read _ => true
  | _ => false

/-- A log of reads and writes alone. -/
def Exchange (log : List Stroke) : Prop := ∀ s ∈ log, s.isExchange = true

variable {log log' : List Stroke}

@[simp] theorem written_append (log log' : List Stroke) :
    written (log ++ log') = written log ++ written log' := List.flatMap_append

@[simp] theorem taken_append (log log' : List Stroke) :
    taken (log ++ log') = taken log ++ taken log' := List.flatMap_append

@[simp] theorem closes_append (log log' : List Stroke) :
    closes (log ++ log') = closes log + closes log' := List.count_append

theorem exchange_nil : Exchange [] := by
  intro s hs
  cases hs

theorem exchange_append (h : Exchange log) (h' : Exchange log') : Exchange (log ++ log') := by
  intro s hs
  rcases List.mem_append.mp hs with hs | hs
  · exact h s hs
  · exact h' s hs

/-- Whoever only reads and writes does not drop. -/
theorem Exchange.not_drop (h : Exchange log) : Stroke.drop ∉ log := by
  intro hin
  cases h _ hin

/-- Whoever only reads and writes asks for no close. -/
theorem Exchange.closes_eq (h : Exchange log) : closes log = 0 := by
  refine List.count_eq_zero.mpr fun hin => ?_
  cases h _ hin

/-- One stroke is put on the record. -/
theorem record_apply (wire : Wire) (s : Stroke) :
    (apply wire s).record =
      ⟨wire.taken ++ taken [s], wire.sent ++ written [s], wire.closes + closes [s]⟩ := by
  cases s with
  | shutDown =>
      rw [apply, Wire.record_shutdown]
      simp [taken, written, closes]
  | _ => simp [apply, Wire.record, Wire.drop, taken, written, closes]

/-- **The wire keeps a record of the strokes.** -/
theorem record_applyAll (wire : Wire) (log : List Stroke) :
    (applyAll wire log).record =
      ⟨wire.taken ++ taken log, wire.sent ++ written log, wire.closes + closes log⟩ := by
  induction log generalizing wire with
  | nil => simp [applyAll, taken, written, closes, Wire.record]
  | cons s rest ih =>
      obtain ⟨htaken, hsent, hcloses⟩ := Wire.Record.mk.inj (record_apply wire s)
      refine (ih _).trans ?_
      rw [htaken, hsent, hcloses, List.append_assoc, List.append_assoc, Nat.add_assoc,
        ← taken_append, ← written_append, ← closes_append]
      rfl

/-- What is on record is what is on the log. -/
theorem taken_of_record {wire : Wire} (h : wire.record = record log) : wire.taken = taken log :=
  congrArg Wire.Record.taken h

theorem sent_of_record {wire : Wire} (h : wire.record = record log) : wire.sent = written log :=
  congrArg Wire.Record.sent h

theorem closes_of_record {wire : Wire} (h : wire.record = record log) :
    wire.closes = closes log :=
  congrArg Wire.Record.closes h

/-- Where the record is that of a log, it stays so. -/
theorem record_applyAll_of_eq {wire : Wire} (h : wire.record = record log) (more : List Stroke) :
    (applyAll wire more).record = record (log ++ more) := by
  rw [record_applyAll, taken_of_record h, sent_of_record h, closes_of_record h, record,
    taken_append, written_append, closes_append]

end Stroke

/-! ## §2. Strokes and the wire's own functions. -/

namespace Wire

open Stroke

/-- A write is the stroke with the octets that it took. -/
theorem write_eq_apply {w w' : Wire} {bs rest : Bytes} (h : w.write bs = .done (rest, w')) :
    w' = Stroke.apply w (.write (bs.take (bs.length - rest.length))) := by
  unfold write at h
  split at h
  · cases h
  · split at h
    · cases h
    · split at h
      · cases h
      · cases h
        -- What is left over is all that was not taken.
        have htake : ∀ k, bs.take (bs.length - (bs.length - k)) = bs.take k := by
          intro k
          rw [show bs.length - (bs.length - k) = min k bs.length by omega]
          exact List.take_eq_take_min.symm
        simp only [Stroke.apply, List.length_drop, htake]

/-- A read is the stroke with the octets that it returned. -/
theorem read_eq_apply {w w' : Wire} {limit : Nat} {bs : Bytes}
    (h : w.read limit = .done (bs, w')) : w' = Stroke.apply w (.read bs) := by
  unfold read at h
  split at h
  · cases h
  · split at h
    · split at h
      · cases h
        simp [Stroke.apply, Pipe.drop]
      · cases h
    · cases h
      simp only [Stroke.apply, Pipe.drop, List.length_take]
      rw [← List.drop_eq_drop_min]

end Wire

namespace Handler

open Stroke

variable {node : Node} {wire : Wire} {h : Handler} {move : Move} {ds : List Deed} {me : Identity}
  {log : List Stroke}

/-- The strokes in the next move of a handler.  A tunnel's wire is the
engine's, not the link's. -/
def strokes (h : Handler) (wire : Wire) : List Stroke :=
  match h.phase with
  | .sending _ unsent =>
      if unsent = [] then []
      else
        match wire.write unsent with
        | .done (rest, _) => [.write (unsent.take (unsent.length - rest.length))]
        | _ => []
  | .receiving _ got =>
      if got.length = frameLength then []
      else
        match wire.read (frameLength - got.length) with
        | .done (bs, _) => [.read bs]
        | _ => []
  | .closing .. => [.shutDown, .drop]
  | _ => []

/-- The strokes in the cancellation of a handler: it drops the wire, if that is
still its own. -/
def parting (h : Handler) : List Stroke :=
  if h.outcome?.isNone && h.holdsWire then [.drop] else []

/-- A write of nothing does nothing. -/
theorem write_nil {rest : Bytes} {wire' : Wire} (hw : wire.write [] = .done (rest, wire')) :
    wire' = wire := by
  rw [Wire.write_eq_apply hw]
  simp [Stroke.apply, Pipe.push]

/-- Whoever gives up the exchange leaves the wire alone. -/
theorem GivesUp.wire_eq {cause : LinkError} (hg : GivesUp node wire h.phase cause) :
    applyAll wire (h.strokes wire) = wire := by
  unfold strokes
  generalize h.phase = phase at hg
  cases hg with
  | sendFailed hu hw => simp [hu, hw, applyAll]
  | sendTimeout hu hw hd => simp [hu, hw, applyAll]
  | flushFailed hf => rfl
  | flushTimeout hf hd => rfl
  | recvFailed hl hr => simp [hl, hr, applyAll]
  | recvEnded hl hr => simp [hl, hr, applyAll, Stroke.apply, Pipe.drop]
  | recvTimeout hl hr hd => simp [hl, hr, applyAll]

/-- **A move changes the wire just by its strokes**, if it is not an engine's. -/
theorem Turn.wire_eq (ht : Turn node wire h move)
    (hp : ∀ entry session, h.phase ≠ .tunnelling entry session) :
    move.wire = applyAll wire (h.strokes wire) := by
  cases ht with
  | @send due unsent rest wire' hphase hw =>
      simp only [strokes, hphase, hw]
      split
      · next hu =>
          subst hu
          exact write_nil hw
      · exact Wire.write_eq_apply hw
  | receive hphase hl hr hb =>
      simp only [strokes, hphase, if_neg hl, hr]
      exact Wire.read_eq_apply hr
  | giveUp hg => exact hg.wire_eq.symm
  | finish hphase hcl =>
      -- Whatever comes of the close, the wire is dropped.
      simp only [strokes, hphase]
      rfl
  | carryOn hphase => exact absurd hphase (hp _ _)
  | «return» hphase => exact absurd hphase (hp _ _)
  | collapse hphase => exact absurd hphase (hp _ _)
  | sent hphase => simp [strokes, hphase, applyAll]
  | receiveAll hphase hl => simp [strokes, hphase, hl, applyAll]
  | refuse hphase | begin hphase | flush hphase | turnAway hphase | validate hphase
  | findDuplicate hphase | register hphase | handOver hphase | leave hphase =>
      simp [strokes, hphase, applyAll]

/-- Up to its close, a handler only reads and writes. -/
theorem exchange_strokes (h : Handler) (wire : Wire)
    (hp : ∀ due outcome, h.phase ≠ .closing due outcome) : Exchange (h.strokes wire) := by
  unfold strokes
  split
  · split
    · exact exchange_nil
    · split
      · simp [Exchange, isExchange]
      · exact exchange_nil
  · split
    · exact exchange_nil
    · split
      · simp [Exchange, isExchange]
      · exact exchange_nil
  · next hphase => exact absurd hphase (hp _ _)
  · exact exchange_nil

/-! ## §3. The log of a link. -/

/-- A record shows a hand-over. -/
def HandedOver (ds : List Deed) : Prop := ∃ peer metric, Deed.handedOver peer metric ∈ ds

theorem handedOver_servedLog (l : Link) (n : Nat) (settings : Settings) (octets : Bytes)
    (peer : Frame) : HandedOver (servedLog l n settings octets peer) :=
  ⟨peer.identity, effectiveMetric l.options.metric peer.metric, by simp [servedLog]⟩

theorem HandedOver.append (h : HandedOver ds) (more : List Deed) : HandedOver (ds ++ more) := by
  obtain ⟨peer, metric, hin⟩ := h
  exact ⟨peer, metric, List.mem_append_left _ hin⟩

theorem Rejected.not_handedOver {l : Link} {n : Nat} {outcome : Outcome}
    (h : Rejected l n ds outcome) : ¬ HandedOver ds := by
  rintro ⟨peer, metric, hin⟩
  cases h <;> simp [askedLog, readLog] at hin

/-- A handler has neither handed its connection over nor ended. -/
def isOpen (h : Handler) : Bool :=
  match h.phase with
  | .tunnelling .. | .leaving .. | .ended _ => false
  | _ => true

/-- An open handler has its wire, and one that has handed it over has not. -/
theorem Staged.holdsWire_eq (hs : h.Staged) (hn : h.outcome? = none) :
    h.holdsWire = h.isOpen := by
  unfold Staged at hs
  unfold outcome? at hn
  unfold isOpen
  cases hp : h.phase <;> simp_all

/-- An open handler has not ended. -/
theorem outcome?_of_isOpen (ho : h.isOpen = true) : h.outcome? = none := by
  unfold isOpen at ho
  unfold outcome?
  cases hp : h.phase <;> simp_all

/-- Before the hand-over, what was sent is part of the frame. -/
theorem Wired.sent_prefix (hw : h.Wired me wire) (ho : h.isOpen = true) :
    wire.sent <+: (h.link.frame me).encode := by
  unfold Wired at hw
  unfold isOpen at ho
  cases hp : h.phase with
  | fresh =>
      rw [hp] at hw
      have hsent : wire.sent = [] := congrArg Wire.Record.sent hw
      exact hsent ▸ List.nil_prefix
  | sending due unsent =>
      rw [hp] at hw
      exact ⟨unsent, hw.2⟩
  | _ => simp_all

/-- So is what was written. -/
theorem Wired.written_prefix (hw : h.Wired me wire) (ho : h.isOpen = true)
    (hrec : wire.record = Stroke.record log) : written log <+: (h.link.frame me).encode :=
  sent_of_record hrec ▸ hw.sent_prefix ho

/-- An open handler was not handed over. -/
theorem Chronicle.not_handedOver (hc : h.Chronicle ds) (ho : h.isOpen = true) :
    ¬ HandedOver ds := by
  rintro ⟨peer, metric, hin⟩
  unfold Chronicle at hc
  unfold isOpen at ho
  cases hp : h.phase with
  | closing due outcome =>
      rw [hp] at hc
      exact hc.not_handedOver ⟨peer, metric, hin⟩
  | received octets => simp_all [readLog]
  | validated frame =>
      rw [hp] at hc
      obtain ⟨octets, -, rfl⟩ := hc
      simp [readLog] at hin
  | registered frame entry =>
      rw [hp] at hc
      obtain ⟨octets, -, -, rfl⟩ := hc
      simp [askedLog, readLog] at hin
  | _ => simp_all

/-- Whoever has left the engine to do its work was handed over. -/
theorem Chronicle.handedOver (hc : h.Chronicle ds) (ho : h.isOpen = false)
    (hn : h.outcome? = none) : HandedOver ds := by
  unfold Chronicle at hc
  unfold isOpen at ho
  unfold outcome? at hn
  cases hp : h.phase with
  | tunnelling entry session =>
      rw [hp] at hc
      obtain ⟨octets, peer, -, -, rfl⟩ := hc
      exact handedOver_servedLog _ _ _ _ _
  | leaving entry result =>
      rw [hp] at hc
      obtain ⟨octets, peer, -, -, rfl⟩ := hc
      exact handedOver_servedLog _ _ _ _ _
  | _ => simp_all

/-- The log of a link that is over: it was handed over, closed, or dropped.
What it wrote is its frame, or part of it. -/
inductive Spent (frame : Bytes) (wire : Wire) (ds : List Deed) : List Stroke → Prop
  | handedOver {log : List Stroke} : HandedOver ds → Exchange log → written log = frame →
      Spent frame wire ds log
  | closed {log : List Stroke} : ¬ HandedOver ds → Exchange log → written log <+: frame →
      wire.record = record (log ++ [.shutDown, .drop]) →
      Spent frame wire ds (log ++ [.shutDown, .drop])
  | dropped {log : List Stroke} : ¬ HandedOver ds → Exchange log → written log <+: frame →
      wire.record = record (log ++ [.drop]) → Spent frame wire ds (log ++ [.drop])

/-- The log of a link as the phase of its handler demands it. -/
def Logged (me : Identity) (h : Handler) (wire : Wire) (ds : List Deed) (log : List Stroke) :
    Prop :=
  match h.phase with
  | .tunnelling .. | .leaving .. => Exchange log ∧ written log = (h.link.frame me).encode
  | .ended _ => Spent (h.link.frame me).encode wire ds log
  | _ => Exchange log ∧ wire.record = record log

/-- An open handler has read and written what is on its log, and nothing
else. -/
theorem logged_iff_of_isOpen (ho : h.isOpen = true) :
    h.Logged me wire ds log ↔ Exchange log ∧ wire.record = record log := by
  unfold isOpen at ho
  unfold Logged
  cases hp : h.phase <;> simp_all

/-- An engine's handler has read and written what is on its log before. -/
theorem logged_iff_of_served (ho : h.isOpen = false) (hn : h.outcome? = none) :
    h.Logged me wire ds log ↔ Exchange log ∧ written log = (h.link.frame me).encode := by
  unfold isOpen at ho
  unfold outcome? at hn
  unfold Logged
  cases hp : h.phase <;> simp_all

theorem Spent.written_prefix {frame : Bytes} (h : Spent frame wire ds log) :
    written log <+: frame := by
  cases h with
  | handedOver hd he hf => exact hf ▸ List.prefix_rfl
  | closed hd he hf hr => simpa [written] using hf
  | dropped hd he hf hr => simpa [written] using hf

theorem Spent.of_record {frame : Bytes} {wire' : Wire} (h : Spent frame wire ds log)
    (hw : wire'.record = wire.record) : Spent frame wire' ds log := by
  cases h with
  | handedOver hd he hf => exact .handedOver hd he hf
  | closed hd he hf hr => exact .closed hd he hf (hw.trans hr)
  | dropped hd he hf hr => exact .dropped hd he hf (hw.trans hr)

/-- Of the wire, only the record matters. -/
theorem Logged.of_record {wire' : Wire} (hl : h.Logged me wire ds log)
    (hw : wire'.record = wire.record) : h.Logged me wire' ds log := by
  unfold Logged at *
  cases hp : h.phase with
  | ended outcome =>
      rw [hp] at hl
      exact hl.of_record hw
  | _ => simpa only [hp, hw] using hl

/-! ## §4. Turns and the log. -/

/-- A turn of an open handler puts its strokes on the record. -/
theorem Turn.record (ht : Turn node wire h move) (ho : h.isOpen = true)
    (hrec : wire.record = Stroke.record log) :
    move.wire.record = Stroke.record (log ++ h.strokes wire) := by
  have hp : ∀ entry session, h.phase ≠ .tunnelling entry session := by
    intro entry session hp
    simp [isOpen, hp] at ho
  rw [ht.wire_eq hp]
  exact record_applyAll_of_eq hrec _

/-- **A turn keeps the log as the next phase demands it.** -/
theorem Turn.logged (ht : Turn node wire h move) (hc : h.Chronicle ds) (hw : h.Wired me wire)
    (hl : h.Logged me wire ds log) :
    move.handler.Logged me move.wire (ds ++ h.deeds node move) (log ++ h.strokes wire) := by
  by_cases ho : h.isOpen = true
  · -- Up to the close, what the turn does with the wire goes onto the log.
    obtain ⟨hex, hrec⟩ := (logged_iff_of_isOpen ho).mp hl
    have hprefix := hw.written_prefix ho hrec
    have hrec' := ht.record ho hrec
    have hnext : (∀ due outcome, h.phase ≠ .closing due outcome) →
        move.handler.isOpen = true →
        move.handler.Logged me move.wire (ds ++ h.deeds node move) (log ++ h.strokes wire) :=
      fun hcl ho' => (logged_iff_of_isOpen ho').mpr
        ⟨exchange_append hex (exchange_strokes h wire hcl), hrec'⟩
    cases ht with
    | handOver hp =>
        -- The frame went out before, and nothing is done with the wire now.
        simp only [Wired, hp] at hw
        simp only [strokes, hp, List.append_nil]
        refine ⟨hex, ?_⟩
        rw [← sent_of_record hrec]
        exact hw
    | finish hp hcl =>
        have hnot := hc.not_handedOver ho
        simp only [strokes, hp] at hrec' ⊢
        simp only [Handler.deeds, hp, handOvers_notices, List.append_nil]
        exact .closed hnot hex hprefix hrec'
    | giveUp hg =>
        refine hnext ?_ rfl
        intro due outcome hp
        rw [hp] at hg
        cases hg
    | carryOn hp | «return» hp | collapse hp | leave hp => simp [isOpen, hp] at ho
    | _ => exact hnext (by simp_all) rfl
  · rw [Bool.not_eq_true] at ho
    have hn := ht.outcome_none
    have hd := (hc.handedOver ho hn).append (h.deeds node move)
    obtain ⟨hex, hframe⟩ := (logged_iff_of_served ho hn).mp hl
    cases ht with
    | carryOn hp =>
        simp only [strokes, hp, List.append_nil]
        exact ⟨hex, hframe⟩
    | «return» hp =>
        simp only [strokes, hp, List.append_nil]
        exact ⟨hex, hframe⟩
    | collapse hp =>
        simp only [strokes, hp, List.append_nil]
        exact .handedOver hd hex hframe
    | leave hp =>
        simp only [strokes, hp, List.append_nil]
        exact .handedOver hd hex hframe
    | giveUp hg =>
        unfold isOpen at ho
        generalize h.phase = phase at hg ho
        cases hg <;> simp at ho
    | _ => simp_all [isOpen]

/-- **A cancellation keeps the log as well.** -/
theorem cancel_logged (node : Node) (hs : h.Staged) (hc : h.Chronicle ds)
    (hw : h.Wired me wire) (hl : h.Logged me wire ds log) :
    (h.cancel node wire).handler.Logged me (h.cancel node wire).wire ds (log ++ h.parting) := by
  cases hout : h.outcome? with
  | some outcome =>
      -- A handler that has ended is left as it is.
      simp only [cancel, parting, hout]
      simpa using hl
  | none =>
      by_cases ho : h.isOpen = true
      · obtain ⟨hex, hrec⟩ := (logged_iff_of_isOpen ho).mp hl
        have hprefix := hw.written_prefix ho hrec
        have hholds : h.holdsWire = true := (hs.holdsWire_eq hout).trans ho
        simp only [cancel, parting, hout, hholds]
        exact .dropped (hc.not_handedOver ho) hex hprefix (record_applyAll_of_eq hrec [.drop])
      · rw [Bool.not_eq_true] at ho
        obtain ⟨hex, hframe⟩ := (logged_iff_of_served ho hout).mp hl
        have hparting : h.parting = [] := by
          simp [parting, (hs.holdsWire_eq hout).trans ho]
        rw [hparting, List.append_nil]
        simp only [cancel, hout]
        exact .handedOver (hc.handedOver ho hout) hex hframe

end Handler

end LinkLayer

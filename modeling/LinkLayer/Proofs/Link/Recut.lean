/-
  LinkLayer.Proofs.Link.Recut
  ───────────────────────────
  **WHAT A HANDLER SEES OF THE OCTETS THAT COME IN.**

  `Wire.recut` is a wire on which other octets have come in, and others of them
  were read.  Only the reads of a handler that receives the frame, and an
  engine, can tell the difference: `step_recut` says that all other moves are
  the same.  So nothing else is decided by what comes in.

  `Handler.soFar?` is what a handler has of the frame, while it lacks some of
  it or has yet to notice that it lacks nothing, and `Handler.reads` says that
  its next move is to read more.  Then it takes what there is
  (`step_of_queued`), or waits (`step_of_empty`).
-/
import LinkLayer.Proofs.Link.Stroke

namespace LinkLayer

/-! ## §1. Other octets on a wire. -/

/-- A wire on whose way in there are these octets, and from which those were
read. -/
def Wire.recut (wire : Wire) (queued taken : Bytes) : Wire :=
  { wire with inbound := { wire.inbound with queued }, taken }

/-- The same move, on a wire with other octets. -/
def Handler.Move.recut (move : Handler.Move) (queued taken : Bytes) : Handler.Move :=
  { move with wire := move.wire.recut queued taken }

/-- What comes of an attempt, seen through a function. -/
def Wire.Attempt.map {α β : Type} (f : α → β) : Wire.Attempt α → Wire.Attempt β
  | .done result => .done (f result)
  | .wait => .wait
  | .failed reason => .failed reason

namespace Wire

variable (wire : Wire) (queued taken : Bytes)

theorem write_recut (bs : Bytes) :
    (wire.recut queued taken).write bs =
      (wire.write bs).map fun r => (r.1, r.2.recut queued taken) := by
  unfold write recut
  dsimp only
  split
  · rfl
  · split
    · rfl
    · split <;> rfl

theorem flush_recut : (wire.recut queued taken).flush = wire.flush := rfl

theorem shutdown_recut :
    (wire.recut queued taken).shutdown =
      (wire.shutdown.1, wire.shutdown.2.recut queued taken) := by
  unfold shutdown recut
  dsimp only
  split
  · rfl
  · split <;> rfl

end Wire

namespace Handler

variable {node : Node} {wire : Wire} {h : Handler} {move : Move}

/-! ## §2. Moves that do not look at what comes in. -/

section

variable (node : Node) (wire : Wire) (h : Handler) (queued taken : Bytes)

theorem close_recut (outcome : Outcome) (events : List Event) :
    h.close node (wire.recut queued taken) outcome events =
      (h.close node wire outcome events).recut queued taken := by
  unfold close
  split <;> rfl

theorem fail_recut (cause : LinkError) (events : List Event) :
    h.fail node (wire.recut queued taken) cause events =
      (h.fail node wire cause events).recut queued taken :=
  close_recut node wire h queued taken _ events

theorem orTimeout_recut (due : Nat) (cause : LinkError) :
    h.orTimeout node (wire.recut queued taken) due cause =
      (h.orTimeout node wire due cause).map (·.recut queued taken) := by
  unfold orTimeout
  split
  · exact congrArg some (fail_recut node wire h queued taken cause [])
  · rfl

theorem begin_recut :
    h.begin node (wire.recut queued taken) = (h.begin node wire).recut queued taken := by
  unfold begin
  split
  · exact fail_recut node wire h queued taken _ []
  · dsimp only
    split
    · rfl
    · exact fail_recut node wire h queued taken _ []

theorem send_recut (due : Nat) (unsent : Bytes) :
    h.send node (wire.recut queued taken) due unsent =
      (h.send node wire due unsent).map (·.recut queued taken) := by
  unfold send
  rw [Wire.write_recut]
  split
  · rfl
  · cases wire.write unsent with
    | done r => rfl
    | failed reason => exact congrArg some (fail_recut node wire h queued taken _ [])
    | wait => exact orTimeout_recut node wire h queued taken due _

theorem flush_recut (due : Nat) :
    h.flush node (wire.recut queued taken) due =
      (h.flush node wire due).map (·.recut queued taken) := by
  unfold flush reach
  rw [Wire.flush_recut]
  cases wire.flush with
  | done r =>
      cases h.stage.advance .metadataSent with
      | error e => exact congrArg some (fail_recut node wire h queued taken _ [])
      | ok stage => rfl
  | failed reason => exact congrArg some (fail_recut node wire h queued taken _ [])
  | wait => exact orTimeout_recut node wire h queued taken due _

theorem decide_recut (octets : Bytes) :
    h.decide node (wire.recut queued taken) octets =
      (h.decide node wire octets).recut queued taken := by
  unfold decide reach
  simp only [fail_recut, close_recut]
  cases Frame.decode octets with
  | error e => rfl
  | ok peer =>
      dsimp only
      cases verdict h.link h.settings peer with
      | welcome =>
          dsimp only
          cases h.stage.advance .validated <;> rfl
      | _ => rfl

theorem register_recut (peer : Frame) :
    h.register node (wire.recut queued taken) peer =
      (h.register node wire peer).recut queued taken := by
  unfold register
  split
  · exact close_recut node wire h queued taken _ _
  · rfl

theorem failRegistered_recut (entry : Handle) (cause : LinkError) (events : List Event) :
    h.failRegistered node (wire.recut queued taken) entry cause events =
      (h.failRegistered node wire entry cause events).recut queued taken :=
  fail_recut _ wire h queued taken cause _

theorem handOver_recut (peer : Frame) (entry : Handle) :
    h.handOver node (wire.recut queued taken) peer entry =
      (h.handOver node wire peer entry).recut queued taken := by
  unfold handOver
  simp only [failRegistered_recut]
  cases h.stage.advance .registered with
  | error e => rfl
  | ok stage =>
      dsimp only
      split
      · cases stage.advance .active <;> rfl
      · rfl

theorem leave_recut (entry : Handle) (result : Except String Unit) :
    h.leave node (wire.recut queued taken) entry result =
      (h.leave node wire entry result).recut queued taken := by
  unfold leave
  simp only [fail_recut]
  cases h.stage.advance .closed <;> rfl

theorem shutDown_recut (due : Nat) (outcome : Outcome) :
    h.shutDown node (wire.recut queued taken) due outcome =
      (h.shutDown node wire due outcome).map (·.recut queued taken) := by
  unfold shutDown
  rw [Wire.shutdown_recut]
  obtain ⟨attempt, wire'⟩ := wire.shutdown
  cases attempt with
  | done result => rfl
  | failed reason => rfl
  | wait =>
      dsimp only
      split <;> rfl

end

/-- **But for its reads and its engine, a handler makes the same moves whatever
comes in.** -/
theorem step_recut (node : Node) (wire : Wire) (hr : ∀ due got, h.phase ≠ .receiving due got)
    (ht : ∀ entry session, h.phase ≠ .tunnelling entry session) (queued taken : Bytes) :
    h.step node (wire.recut queued taken) = (h.step node wire).map (·.recut queued taken) := by
  unfold step
  cases hp : h.phase with
  | fresh => exact congrArg some (begin_recut node wire h queued taken)
  | sending due unsent => exact send_recut node wire h queued taken due unsent
  | flushing due => exact flush_recut node wire h queued taken due
  | receiving due got => exact absurd hp (hr due got)
  | received octets => exact congrArg some (decide_recut node wire h queued taken octets)
  | validated peer => exact congrArg some (register_recut node wire h queued taken peer)
  | registered peer entry =>
      exact congrArg some (handOver_recut node wire h queued taken peer entry)
  | tunnelling entry session => exact absurd hp (ht entry session)
  | leaving entry result => exact congrArg some (leave_recut node wire h queued taken entry result)
  | closing due outcome => exact shutDown_recut node wire h queued taken due outcome
  | ended outcome => rfl

/-! ## §3. The frame so far. -/

/-- What a handler has of the peer's frame, up to the move by which it goes on
to the decision. -/
def soFar? (h : Handler) : Option Bytes :=
  match h.phase with
  | .fresh | .sending .. | .flushing _ => some []
  | .receiving _ got => some got
  | _ => none

/-- The same handler, with other octets of the frame. -/
def resume (h : Handler) (got : Bytes) : Handler :=
  match h.phase with
  | .receiving due _ => { h with phase := .receiving due got }
  | _ => h

/-- Whether a handler's next move is to read: it lacks some of the frame, and the
wire does not fail. -/
def reads (wire : Wire) (h : Handler) : Bool :=
  match h.phase with
  | .receiving _ got =>
      got.length ≠ frameLength &&
        (Wire.failure? wire.faults.read wire.taken.length).isNone
  | _ => false

@[simp] theorem resume_resume (h : Handler) (got got' : Bytes) :
    (h.resume got).resume got' = h.resume got' := by
  cases hp : h.phase <;> simp [resume, hp]

theorem resume_of_receiving {due : Nat} {got : Bytes} (hp : h.phase = .receiving due got)
    (got' : Bytes) : h.resume got' = { h with phase := .receiving due got' } := by
  rw [resume, hp]

theorem resume_of_not_receiving (hp : ∀ due got, h.phase ≠ .receiving due got) (got : Bytes) :
    h.resume got = h := by
  unfold resume
  split
  · next due got' hp' => exact absurd hp' (hp due got')
  · rfl

theorem resume_eq_self {got : Bytes} (hs : h.soFar? = some got) : h.resume got = h := by
  obtain ⟨number, link, stage, holdsWire, settings, phase⟩ := h
  cases phase <;> simp_all [soFar?, resume]

theorem soFar?_resume (hs : h.soFar? ≠ none) (got : Bytes) : (h.resume got).soFar? ≠ none := by
  unfold resume
  split
  · simp [soFar?]
  · exact hs

/-- What a handler has of the frame is what was read from its wire. -/
theorem Wired.taken_of_soFar {me : Identity} {got : Bytes} (hw : h.Wired me wire)
    (hs : h.soFar? = some got) : wire.taken = got := by
  cases hp : h.phase with
  | fresh =>
      simp only [Wired, hp] at hw
      simp only [soFar?, hp, Option.some.injEq] at hs
      exact (congrArg Wire.Record.taken hw).trans hs
  | _ => simp_all [soFar?, Wired]

/-- Whoever has gone on to the decision does not come back. -/
theorem Turn.soFar?_eq_none (ht : Turn node wire h move) (hs : h.soFar? = none) :
    move.handler.soFar? = none := by
  cases ht <;> simp_all [soFar?, closing]

/-- Up to the decision, the registry is left alone. -/
theorem Turn.registry_of_soFar (ht : Turn node wire h move) (hs : h.soFar? ≠ none) :
    move.registry = node.registry := by
  cases ht <;> simp_all [soFar?]

/-- A handler that does not receive yet has nothing of the frame after its move,
or needs no more. -/
theorem Turn.soFar?_of_early (ht : Turn node wire h move) (hs : h.soFar? = some [])
    (hr : ∀ due got, h.phase ≠ .receiving due got) (hs' : move.handler.soFar? ≠ none) :
    move.handler.soFar? = some [] := by
  cases ht <;> simp_all [soFar?, closing]

/-- A handler that receives goes on to the decision or gives up, or it reads. -/
theorem Turn.reads_on (ht : Turn node wire h move) {due : Nat} {got : Bytes}
    (hp : h.phase = .receiving due got) (hs : move.handler.soFar? ≠ none) :
    ∃ bs wire', got.length ≠ frameLength ∧
      wire.read (frameLength - got.length) = .done (bs, wire') ∧
      move = ⟨h.resume (got ++ bs), wire', node.registry, []⟩ := by
  simp only [resume_of_receiving hp]
  cases ht with
  | receive hp' hl hr hb =>
      cases hp.symm.trans hp'
      exact ⟨_, _, hl, hr, rfl⟩
  | receiveAll => exact absurd rfl hs
  | giveUp => exact absurd rfl hs
  | _ => simp_all

end Handler

/-! ## §4. Reads. -/

namespace Wire

variable {wire wire' : Wire} {limit : Nat} {bs : Bytes}

/-- No more was read than a fault lets pass. -/
def Within (wire : Wire) : Prop :=
  ∀ f, wire.faults.read = some f → wire.taken.length ≤ f.after

/-- A read changes what is on the way in, and what was read. -/
theorem recut_of_read (hr : wire.read limit = .done (bs, wire')) :
    wire' = wire.recut wire'.inbound.queued (wire.taken ++ bs) := by
  unfold read at hr
  split at hr
  · cases hr
  · split at hr
    · split at hr
      · cases hr
        simp [recut]
      · cases hr
    · cases hr
      rfl

/-- A read goes no further than a fault. -/
theorem Within.read (hw : wire.Within) (hr : wire.read limit = .done (bs, wire')) :
    wire'.Within := by
  intro f hf
  have hwire := recut_of_read hr
  have hf' : wire.faults.read = some f := by
    rw [hwire] at hf
    exact hf
  have hwithin := hw f hf'
  rw [taken_read hr, List.length_append]
  unfold Wire.read at hr
  split at hr
  · cases hr
  · split at hr
    · split at hr
      · cases hr
        simpa using hwithin
      · cases hr
    · cases hr
      rw [List.length_take, hf']
      simp only [allowed]
      omega

/-- Who asks for octets where there are some, and no fault stands in the way, gets
some of them. -/
theorem read_of_queued (hf : failure? wire.faults.read wire.taken.length = none)
    (hq : wire.inbound.queued ≠ []) (hl : 0 < limit) :
    ∃ bs wire', bs ≠ [] ∧ wire.read limit = .done (bs, wire') := by
  have hlength := List.length_pos_iff.mpr hq
  have hallowed : 0 < allowed wire.faults.read wire.taken.length
      (min limit wire.inbound.queued.length) := by
    unfold allowed
    split
    · next f hfault =>
        have hpassed : ¬ f.after ≤ wire.taken.length := by
          intro hle
          simp [failure?, hfault, hle] at hf
        omega
    · omega
  unfold read
  rw [hf]
  simp only [hq, if_false]
  refine ⟨_, _, ?_, rfl⟩
  rw [← List.length_pos_iff, List.length_take]
  omega

end Wire

namespace Handler

variable {node : Node} {wire : Wire} {h : Handler} {due : Nat} {got : Bytes}

/-- A handler that reads lacks some of the frame. -/
theorem receiving_of_reads (hs : h.Staged) (hr : h.reads wire = true) :
    ∃ due got, h.phase = .receiving due got ∧ got.length < frameLength := by
  unfold reads at hr
  unfold Staged at hs
  split at hr
  · next due got hp =>
      rw [hp] at hs
      simp only [Bool.and_eq_true, decide_eq_true_eq] at hr
      exact ⟨due, got, hp, Nat.lt_of_le_of_ne hs.2.2 hr.1⟩
  · cases hr

/-- A handler that reads, and finds octets, has more of the frame then. -/
theorem step_of_queued (node : Node) (hp : h.phase = .receiving due got)
    (hl : got.length < frameLength) (hr : h.reads wire = true) (hq : wire.inbound.queued ≠ []) :
    ∃ bs wire', bs ≠ [] ∧ wire.read (frameLength - got.length) = .done (bs, wire') ∧
      h.step node wire = some ⟨h.resume (got ++ bs), wire', node.registry, []⟩ := by
  simp only [reads, hp, Bool.and_eq_true, Option.isNone_iff_eq_none] at hr
  obtain ⟨bs, wire', hb, hread⟩ := Wire.read_of_queued hr.2 hq (Nat.sub_pos_of_lt hl)
  refine ⟨bs, wire', hb, hread, ?_⟩
  rw [step, hp]
  simp only [receive, Nat.ne_of_lt hl, if_false, hread, hb]
  rw [resume_of_receiving hp]
  rfl

/-- Whoever gets octets, or has to wait for them, reads. -/
theorem reads_of_read (hp : h.phase = .receiving due got) (hl : got.length ≠ frameLength)
    (hr : ∀ reason, wire.read (frameLength - got.length) ≠ .failed reason) :
    h.reads wire = true := by
  simp only [reads, hp, Bool.and_eq_true, decide_eq_true_eq, Option.isNone_iff_eq_none, ne_eq]
  refine ⟨by simpa using hl, ?_⟩
  cases hf : Wire.failure? wire.faults.read wire.taken.length with
  | none => rfl
  | some reason => exact absurd (by rw [Wire.read, hf]) (hr reason)

/-- A handler that receives and cannot move would read. -/
theorem reads_of_waits (hp : h.phase = .receiving due got) (hm : h.step node wire = none) :
    h.reads wire = true := by
  rw [step, hp] at hm
  simp only [receive] at hm
  split at hm
  · cases hm
  · next hl =>
      refine reads_of_read hp hl fun reason hr => ?_
      rw [hr] at hm
      cases hm

/-- One that finds none waits, up to its deadline. -/
theorem step_of_empty (hp : h.phase = .receiving due got) (hl : got.length < frameLength)
    (hr : h.reads wire = true) (hq : wire.inbound.queued = []) (hc : wire.inbound.closed = false)
    (hd : node.now < due) : h.step node wire = none := by
  simp only [reads, hp, Bool.and_eq_true, Option.isNone_iff_eq_none] at hr
  have hwait : wire.read (frameLength - got.length) = .wait := by
    unfold Wire.read
    rw [hr.2]
    simp [hq, hc]
  rw [step, hp]
  simp only [receive, Nat.ne_of_lt hl, if_false, hwait, orTimeout, Nat.not_le.mpr hd]

/-- How much of a frame a handler can read in its phase: no more than a fault lets
pass. -/
def share (wire : Wire) (h : Handler) : Nat :=
  match h.phase with
  | .receiving .. =>
      match wire.faults.read with
      | some f => min frameLength f.after
      | none => frameLength
  | _ => 0

/-- The share does not depend on what came in. -/
theorem share_recut (h : Handler) (wire : Wire) (queued taken : Bytes) :
    (h.resume taken).share (wire.recut queued taken) = h.share wire := by
  cases hp : h.phase <;> simp [resume, share, hp, Wire.recut]

/-- A handler that does not read next has its share of the frame. -/
theorem length_of_not_reads {me : Identity} (hs : h.Staged) (hw : h.Wired me wire)
    (hsome : h.soFar? ≠ none) (hwithin : wire.Within) (hr : h.reads wire = false) :
    wire.taken.length = h.share wire := by
  obtain ⟨got, hgot⟩ := Option.ne_none_iff_exists'.mp hsome
  have htaken := hw.taken_of_soFar hgot
  cases hp : h.phase with
  | receiving due got' =>
      have hle : wire.taken.length ≤ frameLength := by
        simp only [Staged, hp] at hs
        simp only [soFar?, hp, Option.some.injEq] at hgot
        rw [htaken, ← hgot]
        exact hs.2.2
      simp only [soFar?, hp, Option.some.injEq] at hgot
      simp only [reads, hp, hgot, ← htaken] at hr
      simp only [share, hp]
      -- What stops it is the end of the frame, or a fault before that.
      cases hf : wire.faults.read with
      | none => simpa [hf, Wire.failure?] using hr
      | some f =>
          have hpassed := hwithin f hf
          by_cases hafter : f.after ≤ wire.taken.length
          · show _ = min frameLength f.after
            omega
          · have hl : wire.taken.length = frameLength := by
              simpa [hf, Wire.failure?, hafter] using hr
            show _ = min frameLength f.after
            omega
  | fresh =>
      simp only [soFar?, hp, Option.some.injEq] at hgot
      simp [share, hp, htaken, ← hgot]
  | sending due unsent =>
      simp only [soFar?, hp, Option.some.injEq] at hgot
      simp [share, hp, htaken, ← hgot]
  | flushing due =>
      simp only [soFar?, hp, Option.some.injEq] at hgot
      simp [share, hp, htaken, ← hgot]
  | _ => simp [soFar?, hp] at hsome

end Handler

end LinkLayer

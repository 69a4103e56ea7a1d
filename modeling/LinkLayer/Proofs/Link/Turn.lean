/-
  LinkLayer.Proofs.Link.Turn
  ──────────────────────────
  **THE MOVES OF A HANDLER, ONE BY ONE.**

  `Turn` lists what one move of a handler can be: in which phase it is made,
  under which condition, and what it leaves behind.  `GivesUp` lists the ways
  in which the exchange of frames can fail, `Refuses` the reasons for which a
  peer is turned away.

    • `step_turn` — every move of `Handler.step` is a turn,
    • `afterEngine_turn` — so is every move that an engine causes,
    • `Staged` — stage and phase fit together; turns keep it, and under it
      the transitions of the stage never fail.

  Whatever is to be shown of all moves is shown by going through the turns;
  nothing below opens the functions of the handler again.
-/
import LinkLayer.Link.Handler
import LinkLayer.Proofs.Link.Frame
import LinkLayer.Proofs.Link.Wire
import LinkLayer.Proofs.Registry.Basic

namespace LinkLayer.Handler

open LinkLayer.Engine

/-! ## §1. Stage and phase. -/

/-- The stage, and who owns the wire, are as the phase demands. -/
def Staged (h : Handler) : Prop :=
  match h.phase with
  | .fresh | .sending .. | .flushing _ => h.stage = .created ∧ h.holdsWire = true
  | .receiving _ got =>
      h.stage = .metadataSent ∧ h.holdsWire = true ∧ got.length ≤ frameLength
  | .received octets =>
      h.stage = .metadataReceived ∧ h.holdsWire = true ∧ octets.length = frameLength
  | .validated _ | .registered .. => h.stage = .validated ∧ h.holdsWire = true
  | .tunnelling .. | .leaving .. => h.stage = .active ∧ h.holdsWire = false
  | .closing .. => h.stage ≠ .closed ∧ h.holdsWire = true
  | .ended _ => True

/-- An outcome is that of the last phase. -/
theorem outcome?_eq_some {h : Handler} {outcome : Outcome} :
    h.outcome? = some outcome ↔ h.phase = .ended outcome := by
  unfold outcome?
  cases h.phase <;> simp

/-! ## §2. Turns. -/

/-- The ways in which the exchange of the frames fails. -/
inductive GivesUp (node : Node) (wire : Wire) : Phase → LinkError → Prop
  | sendFailed {due unsent reason} : unsent ≠ [] → wire.write unsent = .failed reason →
      GivesUp node wire (.sending due unsent) (.sendFailed reason)
  | sendTimeout {due unsent} : unsent ≠ [] → wire.write unsent = .wait → due ≤ node.now →
      GivesUp node wire (.sending due unsent) .sendTimeout
  | flushFailed {due reason} : wire.flush = .failed reason →
      GivesUp node wire (.flushing due) (.sendFailed reason)
  | flushTimeout {due} : wire.flush = .wait → due ≤ node.now →
      GivesUp node wire (.flushing due) .sendTimeout
  | recvFailed {due got reason} : got.length ≠ frameLength →
      wire.read (frameLength - got.length) = .failed reason →
      GivesUp node wire (.receiving due got) (.recvFailed reason)
  | recvEnded {due got wire'} : got.length ≠ frameLength →
      wire.read (frameLength - got.length) = .done ([], wire') →
      GivesUp node wire (.receiving due got) (.recvFailed Wire.earlyEnd)
  | recvTimeout {due got} : got.length ≠ frameLength →
      wire.read (frameLength - got.length) = .wait → due ≤ node.now →
      GivesUp node wire (.receiving due got) .recvTimeout

/-- Why a peer is turned away, and what its link ends with. -/
inductive Refuses (l : Link) (settings : Settings) (peer : Frame) : Outcome → Prop
  | incompatible : verdict l settings peer = .incompatible →
      Refuses l settings peer (.failed (.incompatibleVersion Frame.ownVersion peer.version))
  | notPinned : verdict l settings peer = .notPinned →
      Refuses l settings peer (.failed (.pinnedKeyMismatch l.name))
  | notAllowed : verdict l settings peer = .notAllowed → Refuses l settings peer .finished

/-- How the close of a connection comes to its end. -/
inductive Closes (node : Node) (wire : Wire) (due : Nat) : Prop
  | done : wire.shutdown.1 = .done () → Closes node wire due
  | failed {reason} : wire.shutdown.1 = .failed reason → Closes node wire due
  | timeout : wire.shutdown.1 = .wait → due ≤ node.now → Closes node wire due

/-- The handler after it has decided to close the connection. -/
def closing (node : Node) (h : Handler) (outcome : Outcome) : Handler :=
  { h with phase := .closing (node.now + closeTimeout) outcome }

/-- What one move of a handler can be. -/
inductive Turn (node : Node) (wire : Wire) (h : Handler) : Move → Prop
  | refuse : h.phase = .fresh → node.isStopped = true →
      Turn node wire h ⟨h.closing node (.failed .stopped), wire, node.registry, []⟩
  | begin : h.phase = .fresh → node.isStopped = false →
      Turn node wire h
        ⟨{ h with
            settings := node.settings
            phase := .sending (node.now + node.settings.handshakeTimeout)
              (h.ownFrame node).encode },
          wire, node.registry, []⟩
  | send {due unsent rest wire'} : h.phase = .sending due unsent →
      wire.write unsent = .done (rest, wire') →
      Turn node wire h ⟨{ h with phase := .sending due rest }, wire', node.registry, []⟩
  | sent {due} : h.phase = .sending due [] →
      Turn node wire h ⟨{ h with phase := .flushing due }, wire, node.registry, []⟩
  | flush {due} : h.phase = .flushing due → wire.flush = .done () →
      Turn node wire h
        ⟨{ h with
            stage := .metadataSent
            phase := .receiving (node.now + h.settings.handshakeTimeout) [] },
          wire, node.registry, []⟩
  | receive {due got bs wire'} : h.phase = .receiving due got → got.length ≠ frameLength →
      wire.read (frameLength - got.length) = .done (bs, wire') → bs ≠ [] →
      Turn node wire h
        ⟨{ h with phase := .receiving due (got ++ bs) }, wire', node.registry, []⟩
  | receiveAll {due got} : h.phase = .receiving due got → got.length = frameLength →
      Turn node wire h
        ⟨{ h with stage := .metadataReceived, phase := .received got }, wire,
          node.registry, []⟩
  | giveUp {cause} : GivesUp node wire h.phase cause →
      Turn node wire h ⟨h.closing node (.failed cause), wire, node.registry, []⟩
  | turnAway {octets peer outcome n} : h.phase = .received octets →
      Frame.decode octets = .ok peer → Refuses h.link h.settings peer outcome →
      Turn node wire h ⟨h.closing node outcome, wire, node.registry, [.notice n]⟩
  | validate {octets peer} : h.phase = .received octets → Frame.decode octets = .ok peer →
      verdict h.link h.settings peer = .welcome →
      Turn node wire h
        ⟨{ h with stage := .validated, phase := .validated peer }, wire, node.registry, []⟩
  | findDuplicate {peer existing n} : h.phase = .validated peer →
      node.registry.lookup (h.handle peer.identity).key = some existing →
      Turn node wire h
        ⟨h.closing node (.duplicate existing), wire, node.registry, [.notice n]⟩
  | register {peer n} : h.phase = .validated peer →
      node.registry.lookup (h.handle peer.identity).key = none →
      Turn node wire h
        ⟨{ h with phase := .registered peer (h.handle peer.identity) }, wire,
          { node.registry with
            entries := h.handle peer.identity :: node.registry.entries },
          [.notice n]⟩
  | handOver {peer entry n} : h.phase = .registered peer entry →
      Turn node wire h
        ⟨{ h with
            stage := .active
            holdsWire := false
            phase := .tunnelling entry
              { engine := node.engine
                peer := peer.identity
                metric := effectiveMetric h.link.options.metric peer.metric } },
          wire, node.registry,
          [.notice n,
            .handedOver peer.identity (effectiveMetric h.link.options.metric peer.metric)]⟩
  | carryOn {entry session session' wire'} : h.phase = .tunnelling entry session →
      wire.Evolves wire' →
      Turn node wire h
        ⟨{ h with phase := .tunnelling entry session' }, wire', node.registry, []⟩
  | return {entry session result} {notices : List Notice} :
      h.phase = .tunnelling entry session →
      Turn node wire h
        ⟨{ h with phase := .leaving entry result }, wire.drop, node.registry,
          notices.map .notice⟩
  | collapse {entry session} : h.phase = .tunnelling entry session →
      Turn node wire h
        ⟨{ h with phase := .ended .collapsed }, wire.drop,
          (release node.registry entry).1, (release node.registry entry).2⟩
  | leave {entry result n} : h.phase = .leaving entry result →
      Turn node wire h
        ⟨{ h with stage := .closed, phase := .ended (outcomeOf result) }, wire,
          (release node.registry entry).1, .notice n :: (release node.registry entry).2⟩
  | finish {due outcome} {notices : List Notice} : h.phase = .closing due outcome →
      Closes node wire due →
      Turn node wire h
        ⟨{ h with phase := .ended outcome, stage := .closed, holdsWire := false },
          wire.shutdown.2.drop, node.registry, notices.map .notice⟩

/-! ## §3. Every move is a turn. -/

variable {node : Node} {wire : Wire} {h : Handler} {move : Move}

theorem advance_next {s t : Stage} (h : s.next? = some t) : s.advance t = .ok t := by
  simp [Stage.advance, h]

/-- A handler that still has its wire goes to the close. -/
theorem close_of_holds (hw : h.holdsWire = true) (outcome : Outcome) (events : List Event) :
    h.close node wire outcome events =
      ⟨h.closing node outcome, wire, node.registry, events⟩ := by
  simp [close, closing, hw]

/-- A deadline that is reached ends the wait. -/
theorem orTimeout_eq_some {due : Nat} {cause : LinkError}
    (hm : h.orTimeout node wire due cause = some move) :
    due ≤ node.now ∧ move = h.fail node wire cause := by
  unfold orTimeout at hm
  split at hm
  · next hd => exact ⟨hd, (Option.some.inj hm).symm⟩
  · cases hm

/-- To give up is to close, if the wire is still there. -/
theorem giveUp_turn {cause : LinkError} (hw : h.holdsWire = true)
    (hg : GivesUp node wire h.phase cause) : Turn node wire h (h.fail node wire cause) := by
  rw [fail, close_of_holds hw]
  exact .giveUp hg

theorem begin_turn (hp : h.phase = .fresh) (hw : h.holdsWire = true) :
    Turn node wire h (h.begin node wire) := by
  unfold begin
  cases hs : node.isStopped with
  | true =>
      rw [if_pos rfl, fail, close_of_holds hw]
      exact .refuse hp hs
  | false =>
      rw [if_neg (by simp), if_pos hw]
      exact .begin hp hs

theorem send_turn {due : Nat} {unsent : Bytes} (hp : h.phase = .sending due unsent)
    (hw : h.holdsWire = true) (hm : h.send node wire due unsent = some move) :
    Turn node wire h move := by
  unfold send at hm
  split at hm
  · next hu =>
      cases hm
      exact .sent (hu ▸ hp)
  · next hu =>
      split at hm
      · next rest wire' hwr =>
          cases hm
          exact .send hp hwr
      · next reason hwr =>
          cases hm
          exact giveUp_turn hw (hp ▸ .sendFailed hu hwr)
      · next hwr =>
          obtain ⟨hd, rfl⟩ := orTimeout_eq_some hm
          exact giveUp_turn hw (hp ▸ .sendTimeout hu hwr hd)

theorem flush_turn {due : Nat} (hp : h.phase = .flushing due) (hst : h.stage = .created)
    (hw : h.holdsWire = true) (hm : h.flush node wire due = some move) :
    Turn node wire h move := by
  unfold flush at hm
  split at hm
  · next hf =>
      cases hm
      simp only [reach, hst, advance_next (s := .created) rfl]
      exact .flush hp hf
  · next reason hf =>
      cases hm
      exact giveUp_turn hw (hp ▸ .flushFailed hf)
  · next hf =>
      obtain ⟨hd, rfl⟩ := orTimeout_eq_some hm
      exact giveUp_turn hw (hp ▸ .flushTimeout hf hd)

theorem receive_turn {due : Nat} {got : Bytes} (hp : h.phase = .receiving due got)
    (hst : h.stage = .metadataSent) (hw : h.holdsWire = true)
    (hm : h.receive node wire due got = some move) : Turn node wire h move := by
  unfold receive at hm
  split at hm
  · next hl =>
      cases hm
      simp only [reach, hst, advance_next (s := .metadataSent) rfl]
      exact .receiveAll hp hl
  · next hl =>
      split at hm
      · next bs wire' hr =>
          split at hm
          · next hb =>
              cases hm
              exact giveUp_turn hw (hp ▸ .recvEnded hl (hb ▸ hr))
          · next hb =>
              cases hm
              exact .receive hp hl hr hb
      · next reason hr =>
          cases hm
          exact giveUp_turn hw (hp ▸ .recvFailed hl hr)
      · next hr =>
          obtain ⟨hd, rfl⟩ := orTimeout_eq_some hm
          exact giveUp_turn hw (hp ▸ .recvTimeout hl hr hd)

theorem decide_turn {octets : Bytes} (hp : h.phase = .received octets)
    (hst : h.stage = .metadataReceived) (hw : h.holdsWire = true)
    (hl : octets.length = frameLength) : Turn node wire h (h.decide node wire octets) := by
  obtain ⟨peer, hd⟩ := Frame.decode_isOk_iff.mpr hl
  simp only [decide, hd]
  cases hv : verdict h.link h.settings peer with
  | incompatible =>
      simp only [fail, close_of_holds hw]
      exact .turnAway hp hd (.incompatible hv)
  | notPinned =>
      simp only [fail, close_of_holds hw]
      exact .turnAway hp hd (.notPinned hv)
  | notAllowed =>
      simp only [close_of_holds hw]
      exact .turnAway hp hd (.notAllowed hv)
  | welcome =>
      simp only [reach, hst, advance_next (s := .metadataReceived) rfl]
      exact .validate hp hd hv

theorem register_turn {peer : Frame} (hp : h.phase = .validated peer)
    (hw : h.holdsWire = true) : Turn node wire h (h.register node wire peer) := by
  unfold register
  cases hl : node.registry.lookup (h.handle peer.identity).key with
  | none =>
      simp only [Registry.register_of_none hl]
      exact .register hp hl
  | some existing =>
      simp only [Registry.register_of_some hl, close_of_holds hw]
      exact .findDuplicate hp hl

theorem handOver_turn {peer : Frame} {entry : Handle} (hp : h.phase = .registered peer entry)
    (hst : h.stage = .validated) (hw : h.holdsWire = true) :
    Turn node wire h (h.handOver node wire peer entry) := by
  simp only [handOver, hst, advance_next (s := .validated) rfl, hw, if_true,
    advance_next (s := .registered) rfl]
  exact .handOver hp

theorem leave_turn {entry : Handle} {result : Except String Unit}
    (hp : h.phase = .leaving entry result) (hst : h.stage = .active) :
    Turn node wire h (h.leave node wire entry result) := by
  simp only [leave, hst, advance_next (s := .active) rfl]
  exact .leave hp

theorem shutDown_turn {due : Nat} {outcome : Outcome} (hp : h.phase = .closing due outcome)
    (hm : h.shutDown node wire due outcome = some move) : Turn node wire h move := by
  -- What is reported about the close is a list of notices in every case.
  have hf : Closes node wire due → ∀ notices : List Notice,
      Turn node wire h (h.finish node wire.shutdown.2 outcome (notices.map .notice)) := by
    intro hc notices
    obtain ⟨more, hmore⟩ : ∃ more : List Notice,
        h.finish node wire.shutdown.2 outcome (notices.map .notice) =
          ⟨{ h with phase := .ended outcome, stage := .closed, holdsWire := false },
            wire.shutdown.2.drop, node.registry, more.map .notice⟩ := by
      unfold finish
      cases outcome with
      | failed cause =>
          by_cases hs : h.stage = .closed
          · exact ⟨notices, by simp [hs]⟩
          · exact ⟨notices ++ [.closedEarly h.link.name h.stage cause], by simp [hs]⟩
      | _ => exact ⟨notices, by simp⟩
    rw [hmore]
    exact .finish hp hc
  unfold shutDown at hm
  rcases hs : wire.shutdown with ⟨attempt, wire'⟩
  rw [hs] at hf hm
  cases attempt with
  | done result =>
      cases hm
      exact hf (.done (congrArg Prod.fst hs)) []
  | failed reason =>
      cases hm
      exact hf (.failed (congrArg Prod.fst hs)) [.closeFailed reason]
  | wait =>
      dsimp only at hm
      split at hm
      · next hd =>
          cases hm
          exact hf (.timeout (congrArg Prod.fst hs) hd) []
      · cases hm

/-- What an engine does keeps to what the link's end can do. -/
def Plausible (wire : Wire) : Progress → Prop
  | .going _ wire' => wire.Evolves wire'
  | _ => True

/-- **Every move that an engine causes is a turn.** -/
theorem afterEngine_turn {entry : Handle} {session : Session} {progress : Progress}
    (hp : h.phase = .tunnelling entry session) (hpl : Plausible wire progress)
    (hm : h.afterEngine node wire entry progress = some move) : Turn node wire h move := by
  cases progress with
  | waiting => cases hm
  | going session' wire' =>
      cases hm
      exact .carryOn hp hpl
  | returned result notices =>
      cases hm
      exact .return hp
  | collapsed =>
      cases hm
      exact .collapse hp

theorem plausible_step (session : Session) (wire : Wire) :
    Plausible wire (session.step wire) := by
  have hread : Plausible wire (session.readMore wire) := by
    unfold Session.readMore
    split
    · trivial
    · trivial
    · next bs wire' hr =>
        split
        · unfold Session.atEnd
          split <;> trivial
        · exact Wire.evolves_read hr
  have hwrite : Plausible wire (session.writeMore wire) := by
    unfold Session.writeMore
    split
    · trivial
    · trivial
    · next rest wire' hr => exact Wire.evolves_write hr
  unfold Session.step
  split
  · trivial
  · trivial
  · trivial
  · split
    · exact hread
    · exact hwrite

/-- **Every move of a handler is a turn.** -/
theorem step_turn (hs : h.Staged) (hm : h.step node wire = some move) :
    Turn node wire h move := by
  -- One case for each phase; the stage that goes with it lets all transitions
  -- succeed.
  unfold step at hm
  cases hp : h.phase with
  | fresh =>
      simp only [Staged, hp] at hs
      rw [hp] at hm
      cases hm
      exact begin_turn hp hs.2
  | sending due unsent =>
      simp only [Staged, hp] at hs
      rw [hp] at hm
      exact send_turn hp hs.2 hm
  | flushing due =>
      simp only [Staged, hp] at hs
      rw [hp] at hm
      exact flush_turn hp hs.1 hs.2 hm
  | receiving due got =>
      simp only [Staged, hp] at hs
      rw [hp] at hm
      exact receive_turn hp hs.1 hs.2.1 hm
  | received octets =>
      simp only [Staged, hp] at hs
      rw [hp] at hm
      cases hm
      exact decide_turn hp hs.1 hs.2.1 hs.2.2
  | validated peer =>
      simp only [Staged, hp] at hs
      rw [hp] at hm
      cases hm
      exact register_turn hp hs.2
  | registered peer entry =>
      simp only [Staged, hp] at hs
      rw [hp] at hm
      cases hm
      exact handOver_turn hp hs.1 hs.2
  | tunnelling entry session =>
      rw [hp] at hm
      exact afterEngine_turn hp (plausible_step session wire) hm
  | leaving entry result =>
      simp only [Staged, hp] at hs
      rw [hp] at hm
      cases hm
      exact leave_turn hp hs.1
  | closing due outcome =>
      rw [hp] at hm
      exact shutDown_turn hp hm
  | ended outcome =>
      rw [hp] at hm
      cases hm

/-! ## §4. What every turn keeps. -/

/-- Whoever gives up the exchange still has the wire. -/
theorem GivesUp.holds {cause : LinkError} (hg : GivesUp node wire h.phase cause)
    (hs : h.Staged) : h.stage ≠ .closed ∧ h.holdsWire = true := by
  unfold Staged at hs
  generalize h.phase = phase at hg hs
  cases hg <;> simp_all

/-- A turn keeps stage and phase together. -/
theorem Turn.staged (ht : Turn node wire h move) (hs : h.Staged) : move.handler.Staged := by
  cases ht with
  | receive hp hl hr hb =>
      -- No more is read than the frame still lacks.
      simp only [Staged, hp] at hs
      refine ⟨hs.1, hs.2.1, ?_⟩
      have hlen := Wire.length_read hr
      rw [List.length_append]
      omega
  | giveUp hg => exact hg.holds hs
  | _ => simp_all [Staged, closing, frameLength]

/-- A turn leaves the link and its number alone. -/
theorem Turn.link (ht : Turn node wire h move) :
    move.handler.link = h.link ∧ move.handler.number = h.number := by
  cases ht <;> exact ⟨rfl, rfl⟩

/-- A turn does to the wire what the link's end can do. -/
theorem Turn.evolves (ht : Turn node wire h move) : wire.Evolves move.wire := by
  cases ht with
  | send hp hw => exact Wire.evolves_write hw
  | receive hp hl hr hb => exact Wire.evolves_read hr
  | carryOn hp he => exact he
  | «return» hp => exact Wire.evolves_drop wire
  | collapse hp => exact Wire.evolves_drop wire
  | finish hp hc => exact (Wire.evolves_shutdown wire).trans (Wire.evolves_drop _)
  | _ => exact Wire.Evolves.refl wire

end LinkLayer.Handler

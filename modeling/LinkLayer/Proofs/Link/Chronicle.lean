/-
  LinkLayer.Proofs.Link.Chronicle
  ───────────────────────────────
  **A HANDLER, ITS RECORD AND ITS WIRE.**

  The deeds of a handler come in one order: it began, it received a frame, it
  asked for its registration, it handed over.  `Chronicle` says, phase by
  phase, how far the record of a handler reaches and what it must contain;
  `Rejected` and `Over` do the same for handlers that have decided to close,
  or have ended, together with their outcome.  `Wired` says what has been sent
  and taken on the wire.

    • `Turn.chronicle`, `Turn.wired`, `Turn.receipt` — every turn keeps these,
    • `cancel_chronicle` — so does a cancellation where the handler waits,
    • `Chronicle.story` — at any time, the record tells one of five stories.
-/
import LinkLayer.Proofs.Link.Turn
import LinkLayer.Proofs.World.Basic

namespace LinkLayer

/-! ## §1. Records. -/

/-- The entry of a link, once its peer is known. -/
def Link.entry (l : Link) (n : Nat) (peer : Identity) : Handle where
  id := n
  name := l.name
  key := ⟨peer, l.kind, l.source, l.remote⟩
  incoming := l.incoming

/-- The frame that a link of a node sends. -/
def Link.frame (me : Identity) (l : Link) : Frame := .own me l.options.metric

namespace Handler

/-- A frame was received, and the verdict about it is to go on. -/
structure Welcome (l : Link) (settings : Settings) (octets : Bytes) (peer : Frame) :
    Prop where
  decoded : Frame.decode octets = .ok peer
  verdict : verdict l settings peer = .welcome

/-- The record up to a frame. -/
def readLog (l : Link) (settings : Settings) (octets : Bytes) : List Deed :=
  [.began l settings, .received octets]

/-- The record up to a question for registration. -/
def askedLog (l : Link) (n : Nat) (settings : Settings) (octets : Bytes) (peer : Frame)
    (holder : Option Handle) : List Deed :=
  readLog l settings octets ++ [.asked (l.entry n peer.identity) holder]

/-- The record of a link that was handed over. -/
def servedLog (l : Link) (n : Nat) (settings : Settings) (octets : Bytes) (peer : Frame) :
    List Deed :=
  askedLog l n settings octets peer none ++
    [.handedOver peer.identity (effectiveMetric l.options.metric peer.metric)]

/-- The errors of the exchange of frames. -/
inductive ExchangeError : LinkError → Prop
  | sendFailed (reason : String) : ExchangeError (.sendFailed reason)
  | sendTimeout : ExchangeError .sendTimeout
  | recvFailed (reason : String) : ExchangeError (.recvFailed reason)
  | recvTimeout : ExchangeError .recvTimeout

/-- The record and the outcome of a handler that decided not to hand over. -/
inductive Rejected (l : Link) (n : Nat) : List Deed → Outcome → Prop
  | stopped : Rejected l n [] (.failed .stopped)
  | broken {settings cause} : ExchangeError cause →
      Rejected l n [.began l settings] (.failed cause)
  | turnedAway {settings octets peer outcome} : Frame.decode octets = .ok peer →
      Refuses l settings peer outcome → Rejected l n (readLog l settings octets) outcome
  | duplicate {settings octets peer existing} : Welcome l settings octets peer →
      Rejected l n (askedLog l n settings octets peer (some existing)) (.duplicate existing)

/-- The records of a handler that waits. -/
inductive Pending (l : Link) (n : Nat) : List Deed → Prop
  | fresh : Pending l n []
  | begun {settings} : Pending l n [.began l settings]
  | rejected {ds outcome} : Rejected l n ds outcome → Pending l n ds
  | served {settings octets peer} : Welcome l settings octets peer →
      Pending l n (servedLog l n settings octets peer)

/-- The record and the outcome of a handler that has ended. -/
inductive Over (l : Link) (n : Nat) : List Deed → Outcome → Prop
  | rejected {ds outcome} : Rejected l n ds outcome → Over l n ds outcome
  | served {settings octets peer result} : Welcome l settings octets peer →
      Over l n (servedLog l n settings octets peer) (outcomeOf result)
  | collapsed {settings octets peer} : Welcome l settings octets peer →
      Over l n (servedLog l n settings octets peer) .collapsed
  | cancelled {ds} : Pending l n ds → Over l n ds .cancelled

/-- How far the record of a handler reaches. -/
def Chronicle (h : Handler) (ds : List Deed) : Prop :=
  match h.phase with
  | .fresh => ds = []
  | .sending .. | .flushing _ | .receiving .. => ds = [.began h.link h.settings]
  | .received octets => ds = readLog h.link h.settings octets
  | .validated peer =>
      ∃ octets, Welcome h.link h.settings octets peer ∧ ds = readLog h.link h.settings octets
  | .registered peer entry =>
      ∃ octets, Welcome h.link h.settings octets peer ∧
        entry = h.link.entry h.number peer.identity ∧
        ds = askedLog h.link h.number h.settings octets peer none
  | .tunnelling entry _ | .leaving entry _ =>
      ∃ octets peer, Welcome h.link h.settings octets peer ∧
        entry = h.link.entry h.number peer.identity ∧
        ds = servedLog h.link h.number h.settings octets peer
  | .closing _ outcome => Rejected h.link h.number ds outcome
  | .ended outcome => Over h.link h.number ds outcome

/-- How far the record of a link can have come at any time. -/
inductive Story (l : Link) (n : Nat) : List Deed → Prop
  | blank : Story l n []
  | begun {settings} : Story l n [.began l settings]
  | read {settings octets} : Story l n (readLog l settings octets)
  | asked {settings octets peer holder} : Welcome l settings octets peer →
      Story l n (askedLog l n settings octets peer holder)
  | served {settings octets peer} : Welcome l settings octets peer →
      Story l n (servedLog l n settings octets peer)

/-- A record shows a registration. -/
def Registered (ds : List Deed) : Prop := ∃ entry, Deed.asked entry none ∈ ds

theorem Rejected.not_registered {l : Link} {n : Nat} {ds : List Deed} {outcome : Outcome}
    (h : Rejected l n ds outcome) : ¬ Registered ds := by
  rintro ⟨entry, he⟩
  cases h <;> simp [readLog, askedLog] at he

theorem Rejected.story {l : Link} {n : Nat} {ds : List Deed} {outcome : Outcome}
    (h : Rejected l n ds outcome) : Story l n ds := by
  cases h with
  | stopped => exact .blank
  | broken => exact .begun
  | turnedAway => exact .read
  | duplicate hwel => exact .asked hwel

theorem Over.story {l : Link} {n : Nat} {ds : List Deed} {outcome : Outcome}
    (h : Over l n ds outcome) : Story l n ds := by
  cases h with
  | rejected hr => exact hr.story
  | served hwel => exact .served hwel
  | collapsed hwel => exact .served hwel
  | cancelled hp =>
      cases hp with
      | fresh => exact .blank
      | begun => exact .begun
      | rejected hr => exact hr.story
      | served hwel => exact .served hwel

theorem Chronicle.story {h : Handler} {ds : List Deed} (hc : h.Chronicle ds) :
    Story h.link h.number ds := by
  unfold Chronicle at hc
  cases hp : h.phase with
  | fresh =>
      rw [hp] at hc
      exact hc ▸ .blank
  | sending due unsent =>
      rw [hp] at hc
      exact hc ▸ .begun
  | flushing due =>
      rw [hp] at hc
      exact hc ▸ .begun
  | receiving due got =>
      rw [hp] at hc
      exact hc ▸ .begun
  | received octets =>
      rw [hp] at hc
      exact hc ▸ .read
  | validated peer =>
      rw [hp] at hc
      obtain ⟨octets, -, rfl⟩ := hc
      exact .read
  | registered peer entry =>
      rw [hp] at hc
      obtain ⟨octets, hwel, -, rfl⟩ := hc
      exact .asked hwel
  | tunnelling entry session =>
      rw [hp] at hc
      obtain ⟨octets, peer, hwel, -, rfl⟩ := hc
      exact .served hwel
  | leaving entry result =>
      rw [hp] at hc
      obtain ⟨octets, peer, hwel, -, rfl⟩ := hc
      exact .served hwel
  | closing due outcome =>
      rw [hp] at hc
      exact hc.story
  | ended outcome =>
      rw [hp] at hc
      exact hc.story

/-- Whoever asked was welcome, and asked for the entry of its link. -/
theorem Story.of_asked {l : Link} {n : Nat} {ds : List Deed} (h : Story l n ds)
    {entry : Handle} {holder : Option Handle} (ha : Deed.asked entry holder ∈ ds) :
    ∃ settings octets peer, Welcome l settings octets peer ∧
      entry = l.entry n peer.identity ∧ askedLog l n settings octets peer holder <+: ds := by
  cases h with
  | asked hwel =>
      simp only [askedLog, readLog, List.cons_append, List.nil_append, List.mem_cons,
        reduceCtorEq, Deed.asked.injEq, List.not_mem_nil, or_false, false_or] at ha
      obtain ⟨rfl, rfl⟩ := ha
      exact ⟨_, _, _, hwel, rfl, List.prefix_rfl⟩
  | served hwel =>
      simp only [servedLog, askedLog, readLog, List.cons_append, List.nil_append, List.mem_cons,
        reduceCtorEq, Deed.asked.injEq, List.not_mem_nil, or_false, false_or] at ha
      obtain ⟨rfl, rfl⟩ := ha
      exact ⟨_, _, _, hwel, rfl, List.prefix_append _ _⟩
  | _ => simp [readLog] at ha

/-- Whoever was handed over was welcome and has its whole life on record. -/
theorem Story.of_handedOver {l : Link} {n : Nat} {ds : List Deed} (h : Story l n ds)
    {peer : Identity} {metric : UInt8} (ha : Deed.handedOver peer metric ∈ ds) :
    ∃ settings octets frame, Welcome l settings octets frame ∧
      ds = servedLog l n settings octets frame := by
  cases h with
  | served hwel => exact ⟨_, _, _, hwel, rfl⟩
  | _ => simp [readLog, askedLog] at ha

theorem registered_servedLog (l : Link) (n : Nat) (settings : Settings) (octets : Bytes)
    (peer : Frame) : Registered (servedLog l n settings octets peer) :=
  ⟨l.entry n peer.identity, by simp [servedLog, askedLog, readLog]⟩

/-! ## §2. Turns and the record. -/

variable {node : Node} {wire : Wire} {h : Handler} {move : Move} {ds : List Deed}

@[simp] theorem handOverOf?_notice (n : Notice) : handOverOf? (.notice n) = none := rfl

/-- Notices hand nothing over. -/
theorem handOvers_notices (notices : List Notice) :
    (notices.map Event.notice).filterMap handOverOf? = [] := by
  induction notices with
  | nil => rfl
  | cons n rest ih => rw [List.map_cons, List.filterMap_cons, handOverOf?_notice, ih]

theorem handOvers_release (r : Registry) (e : Handle) :
    (release r e).2.filterMap handOverOf? = [] := by
  unfold release
  split <;> rfl

theorem GivesUp.exchangeError {phase : Phase} {cause : LinkError}
    (h : GivesUp node wire phase cause) : ExchangeError cause := by
  cases h <;> constructor

/-- Whoever gives up the exchange has begun, and done nothing else of note. -/
theorem GivesUp.begun {cause : LinkError} (hg : GivesUp node wire h.phase cause)
    (hc : h.Chronicle ds) : ds = [.began h.link h.settings] := by
  unfold Chronicle at hc
  generalize h.phase = phase at hg hc
  cases hg <;> exact hc

/-- What gives up the exchange is no deed. -/
theorem GivesUp.deeds {cause : LinkError} (hg : GivesUp node wire h.phase cause) :
    h.deeds node ⟨h.closing node (.failed cause), wire, node.registry, []⟩ = [] := by
  unfold Handler.deeds
  generalize h.phase = phase at hg
  cases hg <;> simp_all

/-- **A turn writes on the record what the next phase demands.** -/
theorem Turn.chronicle (ht : Turn node wire h move) (hc : h.Chronicle ds) :
    move.handler.Chronicle (ds ++ h.deeds node move) := by
  -- In each case, the old phase says what the record is, and the new phase what
  -- it has to be with the deeds of this turn.
  cases ht with
  | refuse hp hs =>
      simp only [Chronicle, hp] at hc
      simp only [Handler.deeds, hp, hs, hc, if_true]
      exact .stopped
  | begin hp hs =>
      simp only [Chronicle, hp] at hc
      simp [Handler.deeds, hp, hs, hc, Chronicle]
  | send hp hw => simpa [Handler.deeds, hp, Chronicle] using hc
  | sent hp => simpa [Handler.deeds, hp, Chronicle] using hc
  | flush hp hf => simpa [Handler.deeds, hp, Chronicle] using hc
  | receive hp hl hr hb =>
      simpa only [Handler.deeds, hp, Chronicle, if_neg hl, List.append_nil] using hc
  | receiveAll hp hl =>
      simp only [Chronicle, hp] at hc
      simp [Handler.deeds, hp, hl, hc, Chronicle, readLog]
  | giveUp hg =>
      rw [hg.deeds, hg.begun hc]
      exact .broken hg.exchangeError
  | turnAway hp hd hr =>
      simp only [Chronicle, hp] at hc
      simp only [Handler.deeds, hp, hc, List.filterMap_cons, handOverOf?_notice,
        List.filterMap_nil, List.append_nil]
      exact .turnedAway hd hr
  | validate hp hd hv =>
      simp only [Chronicle, hp] at hc
      simp only [Handler.deeds, hp, hc, List.filterMap_nil, List.append_nil]
      exact ⟨_, ⟨hd, hv⟩, rfl⟩
  | findDuplicate hp hl =>
      -- The question goes on record together with who holds the key.
      simp only [Chronicle, hp] at hc
      obtain ⟨octets, hwel, rfl⟩ := hc
      simp only [Handler.deeds, hp, hl]
      exact .duplicate hwel
  | register hp hl =>
      simp only [Chronicle, hp] at hc
      obtain ⟨octets, hwel, rfl⟩ := hc
      simp only [Handler.deeds, hp, hl]
      exact ⟨octets, hwel, rfl, rfl⟩
  | handOver hp =>
      simp only [Chronicle, hp] at hc
      obtain ⟨octets, hwel, hent, rfl⟩ := hc
      simp only [Handler.deeds, hp]
      exact ⟨octets, _, hwel, hent, rfl⟩
  | carryOn hp he => simpa [Handler.deeds, hp, Chronicle] using hc
  | «return» hp =>
      simpa only [Handler.deeds, hp, Chronicle, handOvers_notices, List.append_nil] using hc
  | collapse hp =>
      -- A release gives notice at most; it hands nothing over.
      simp only [Chronicle, hp] at hc
      obtain ⟨octets, peer, hwel, -, rfl⟩ := hc
      simp only [Handler.deeds, hp, handOvers_release, List.append_nil]
      exact .collapsed hwel
  | leave hp =>
      simp only [Chronicle, hp] at hc
      obtain ⟨octets, peer, hwel, -, rfl⟩ := hc
      simp only [Handler.deeds, hp, List.filterMap_cons, handOverOf?_notice,
        handOvers_release, List.append_nil]
      exact .served hwel
  | finish hp hcl =>
      simp only [Chronicle, hp] at hc
      simp only [Handler.deeds, hp, handOvers_notices, List.append_nil]
      exact .rejected hc

/-- A cancellation, where the handler waits, keeps the record in order. -/
theorem cancel_chronicle (node : Node) (wire : Wire) (hb : h.isBusy = false)
    (hc : h.Chronicle ds) : (h.cancel node wire).handler.Chronicle ds := by
  unfold Chronicle at hc
  unfold isBusy at hb
  cases hp : h.phase with
  | fresh =>
      simp only [hp] at hc
      simp only [cancel, outcome?, hp, Chronicle, hc]
      exact .cancelled .fresh
  | sending due unsent =>
      simp only [hp] at hc
      simp only [cancel, outcome?, hp, Chronicle, hc]
      exact .cancelled .begun
  | flushing due =>
      simp only [hp] at hc
      simp only [cancel, outcome?, hp, Chronicle, hc]
      exact .cancelled .begun
  | receiving due got =>
      simp only [hp] at hc
      simp only [cancel, outcome?, hp, Chronicle, hc]
      exact .cancelled .begun
  | tunnelling entry session =>
      simp only [hp] at hc
      obtain ⟨octets, peer, hwel, -, rfl⟩ := hc
      simp only [cancel, outcome?, hp, Chronicle]
      exact .cancelled (.served hwel)
  | closing due outcome =>
      simp only [hp] at hc
      simp only [cancel, outcome?, hp, Chronicle]
      exact .cancelled (.rejected hc)
  | ended outcome =>
      simp only [hp] at hc
      simpa only [cancel, outcome?, hp, Chronicle] using hc
  -- In the other phases the handler does not wait.
  | received octets => simp [hp] at hb
  | validated peer => simp [hp] at hb
  | registered peer entry => simp [hp] at hb
  | leaving entry result => simp [hp] at hb

/-! ## §3. Turns and the wire. -/

/-- What was sent is a beginning of the link's frame, or begins with it. -/
def Stamped (frame : Bytes) (wire : Wire) : Prop :=
  wire.sent <+: frame ∨ frame <+: wire.sent

/-- What was taken and sent is as the phase demands. -/
def Wired (me : Identity) (h : Handler) (wire : Wire) : Prop :=
  let frame := (h.link.frame me).encode
  match h.phase with
  | .fresh => wire.record = {}
  | .sending _ unsent => wire.taken = [] ∧ wire.sent ++ unsent = frame
  | .flushing _ => wire.taken = [] ∧ wire.sent = frame
  | .receiving _ got => wire.taken = got ∧ wire.sent = frame
  | .received octets => wire.taken = octets ∧ wire.sent = frame
  | .validated _ | .registered .. => wire.sent = frame
  | .tunnelling .. | .leaving .. => frame <+: wire.sent
  | .closing .. => wire.sent <+: frame
  | .ended _ => Stamped frame wire

/-- The frame on the record is what the link took first. -/
def Receipt (wire : Wire) (ds : List Deed) : Prop :=
  ∀ octets, Deed.received octets ∈ ds → octets.length = frameLength ∧ octets <+: wire.taken

variable {me : Identity}

/-- In every phase, what was sent is part of the frame or goes beyond it. -/
theorem Wired.stamped (hw : h.Wired me wire) : Stamped (h.link.frame me).encode wire := by
  unfold Wired at hw
  cases hp : h.phase with
  | fresh =>
      rw [hp] at hw
      have hsent : wire.sent = [] := congrArg Wire.Record.sent hw
      exact .inl (hsent ▸ List.nil_prefix)
  | sending due unsent =>
      rw [hp] at hw
      exact .inl ⟨unsent, hw.2⟩
  | flushing due =>
      rw [hp] at hw
      exact .inl (hw.2 ▸ List.prefix_rfl)
  | receiving due got =>
      rw [hp] at hw
      exact .inl (hw.2 ▸ List.prefix_rfl)
  | received octets =>
      rw [hp] at hw
      exact .inl (hw.2 ▸ List.prefix_rfl)
  | validated peer =>
      rw [hp] at hw
      exact .inl (hw ▸ List.prefix_rfl)
  | registered peer entry =>
      rw [hp] at hw
      exact .inl (hw ▸ List.prefix_rfl)
  | tunnelling entry session =>
      rw [hp] at hw
      exact .inr hw
  | leaving entry result =>
      rw [hp] at hw
      exact .inr hw
  | closing due outcome =>
      rw [hp] at hw
      exact .inl hw
  | ended outcome =>
      rw [hp] at hw
      exact hw

/-- Whoever gives up the exchange has sent no more than the frame. -/
theorem GivesUp.sent {cause : LinkError} (hg : GivesUp node wire h.phase cause)
    (hw : h.Wired me wire) : wire.sent <+: (h.link.frame me).encode := by
  unfold Wired at hw
  generalize h.phase = phase at hg hw
  cases hg with
  | sendFailed => exact ⟨_, hw.2⟩
  | sendTimeout => exact ⟨_, hw.2⟩
  | _ => exact hw.2 ▸ List.prefix_rfl

/-- **A turn sends and takes what the next phase demands.** -/
theorem Turn.wired (ht : Turn node wire h move) (hme : node.identity = me)
    (hw : h.Wired me wire) : move.handler.Wired me move.wire := by
  cases ht with
  | refuse hp hs =>
      simp only [Wired, hp] at hw
      have hsent : wire.sent = [] := congrArg Wire.Record.sent hw
      show wire.sent <+: _
      rw [hsent]
      exact List.nil_prefix
  | begin hp hs =>
      simp only [Wired, hp] at hw
      have hsent : wire.sent = [] := congrArg Wire.Record.sent hw
      refine ⟨congrArg Wire.Record.taken hw, ?_⟩
      rw [hsent, ← hme]
      rfl
  | send hp hwr =>
      -- What goes out is taken from the front of what is left.
      simp only [Wired, hp] at hw
      exact ⟨(Wire.taken_write hwr).trans hw.1, (Wire.sent_write hwr).trans hw.2⟩
  | sent hp =>
      simp only [Wired, hp, List.append_nil] at hw
      exact hw
  | flush hp hf =>
      simp only [Wired, hp] at hw
      exact hw
  | receive hp hl hr hb =>
      simp only [Wired, hp] at hw
      refine ⟨?_, (Wire.sent_read hr).trans hw.2⟩
      rw [Wire.taken_read hr, hw.1]
  | receiveAll hp hl =>
      simp only [Wired, hp] at hw
      exact hw
  | giveUp hg => exact hg.sent hw
  | turnAway hp hd hr =>
      simp only [Wired, hp] at hw
      show wire.sent <+: _
      exact hw.2 ▸ List.prefix_rfl
  | validate hp hd hv =>
      simp only [Wired, hp] at hw
      exact hw.2
  | findDuplicate hp hl =>
      simp only [Wired, hp] at hw
      show wire.sent <+: _
      exact hw ▸ List.prefix_rfl
  | register hp hl =>
      simp only [Wired, hp] at hw
      exact hw
  | handOver hp =>
      simp only [Wired, hp] at hw
      show _ <+: wire.sent
      exact hw ▸ List.prefix_rfl
  | carryOn hp he =>
      -- The engine writes behind the frame.
      simp only [Wired, hp] at hw
      obtain ⟨bs, hs, -⟩ := he.sent
      exact hw.trans ⟨bs, hs.symm⟩
  | «return» hp =>
      simp only [Wired, hp] at hw
      exact hw
  | collapse hp =>
      simp only [Wired, hp] at hw
      exact .inr hw
  | leave hp =>
      simp only [Wired, hp] at hw
      exact .inr hw
  | finish hp hcl =>
      simp only [Wired, hp] at hw
      refine .inl ?_
      show wire.shutdown.2.sent <+: (h.link.frame me).encode
      rw [wire.sent_shutdown]
      exact hw

/-- The frame on the record stays what was taken first. -/
theorem Turn.receipt (ht : Turn node wire h move) (hw : h.Wired me wire)
    (hr : Receipt wire ds) : Receipt move.wire (ds ++ h.deeds node move) := by
  intro octets ho
  rcases List.mem_append.mp ho with hold | hnew
  · obtain ⟨hl, hp⟩ := hr octets hold
    exact ⟨hl, hp.trans ht.evolves.taken⟩
  · -- The only turn with a new frame is the one that completes it.
    unfold Handler.deeds at hnew
    cases hp : h.phase with
    | receiving due got =>
        simp only [Wired, hp] at hw
        simp only [hp] at hnew
        split at hnew
        · next hl =>
            rw [List.mem_singleton] at hnew
            cases hnew
            exact ⟨hl, hw.1 ▸ ht.evolves.taken⟩
        · cases hnew
    | fresh =>
        simp only [hp] at hnew
        split at hnew <;> simp at hnew
    | _ =>
        simp only [hp, List.mem_filterMap, List.mem_singleton, reduceCtorEq] at hnew
        all_goals
          obtain ⟨event, -, he⟩ := hnew
          cases event <;> cases he

end Handler

end LinkLayer

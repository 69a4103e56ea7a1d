/-
  LinkLayer.Proofs.World.Admission
  ────────────────────────────────
  **WHO IS HANDED OVER TO THE ENGINE.**

  A handshake is the stretch of a run from a handler's start to the moment at
  which it has the peer's whole frame before it (`Handshake`).  Its link is
  handed over if and only if

    • the peer is acceptable, by the settings at the handler's start, and
    • nobody has the key at the moment at which the handler asks for it.

  `Admission` says this of any run that goes on from there, and what the
  others get; `admission` is that for all runs, with the converse: whoever is
  handed over has come this way.
-/
import LinkLayer.Proofs.Link.Frame
import LinkLayer.Proofs.Link.Verdict
import LinkLayer.Proofs.Registry.Precedence
import LinkLayer.Proofs.World.Flow

namespace LinkLayer

/-! ## §1. Handshakes and what comes of them. -/

/-- The hand-over that a deed is. -/
def Deed.handOver? : Deed → Option (Identity × UInt8)
  | .handedOver peer metric => some (peer, metric)
  | _ => none

namespace World

open Handler (Accepts IsPinned IsAllowed readLog askedLog servedLog Rejected Refuses)

variable {σ : Type}

/-- The hand-overs of a connection: to which identity, and with which metric. -/
def handOvers (w : World σ) (n : Nat) : List (Identity × UInt8) :=
  (w.deedsOf n).filterMap Deed.handOver?

/-- A handler begins on a node that is not stopped, and has the peer's frame
before it some time later. -/
structure Handshake (T : Transport σ) (w₀ w₁ : World σ) (t : Nat) (h : Handler)
    (octets : Bytes) : Prop where
  handler : w₀.handler? t = some h
  fresh : h.phase = .fresh
  running : w₀.manager.isStopped = false
  between : ∃ acts, w₁ = (w₀.act T (.task t)).run T acts
  received : ∃ h₁, w₁.handler? t = some h₁ ∧ h₁.phase = .received octets

/-- The handler of a task comes to ask for a key, and at that moment the
registry has this entry for it, or none. -/
def Asks (T : Transport σ) (w : World σ) (acts : List (Act σ)) (t : Nat) (key : LinkKey)
    (holder : Option Handle) : Prop :=
  ∃ l l' h peer, acts = l ++ .task t :: l' ∧ (w.run T l).handler? t = some h ∧
    h.phase = .validated peer ∧ (w.run T l).manager.registry.lookup key = holder

/-- A link has this result, or that of a cancellation that took place. -/
def Results (w : World σ) (n t : Nat) (acts : List (Act σ)) (outcome : Outcome) : Prop :=
  w.result? n = some outcome ∨ w.result? n = some .cancelled ∧ .cancel t ∈ acts

/-- What comes of a link whose handler has the peer's frame before it, in any
run that goes on from there. -/
structure Admission (T : Transport σ) (settings : Settings) (l : Link) (n t : Nat)
    (peer : Frame) (w : World σ) (acts : List (Act σ)) : Prop where
  /-- It is handed over once at most, and as what it is. -/
  once : (w.run T acts).handOvers n = [] ∨
    (w.run T acts).handOvers n = [(peer.identity, max l.options.metric peer.metric)]
  /-- It is handed over if it is acceptable and finds its key free. -/
  admitted : (w.run T acts).handOvers n ≠ [] ↔ (w.run T acts).Decided n ∧
    Accepts l settings peer ∧
    Asks T w acts t ⟨peer.identity, l.kind, l.source, l.remote⟩ none
  /-- Three moves of its own are enough to decide. -/
  decides : 3 ≤ acts.countP (Act.isMoveOf t) → (w.run T acts).Decided n
  /-- The key is asked for at one moment, if the peer is acceptable. -/
  asks : (w.run T acts).Decided n → Accepts l settings peer →
    ∃! holder, Asks T w acts t ⟨peer.identity, l.kind, l.source, l.remote⟩ holder
  /-- The version comes first, -/
  incompatible : (w.run T acts).Decided n → peer.major ≠ protocolMajor →
    (w.run T acts).Results n t acts
      (.failed (.incompatibleVersion Frame.ownVersion peer.version))
  /-- then the pinned keys, -/
  notPinned : (w.run T acts).Decided n → peer.major = protocolMajor →
    ¬ IsPinned l peer.identity →
    (w.run T acts).Results n t acts (.failed (.pinnedKeyMismatch l.name))
  /-- then the allow-list, -/
  notAllowed : (w.run T acts).Decided n → peer.major = protocolMajor →
    IsPinned l peer.identity → ¬ IsAllowed l settings peer.identity →
    (w.run T acts).Results n t acts .finished
  /-- and the registry last. -/
  duplicate : (w.run T acts).Decided n → Accepts l settings peer → ∀ existing,
    Asks T w acts t ⟨peer.identity, l.kind, l.source, l.remote⟩ (some existing) →
    (w.run T acts).Results n t acts (.duplicate existing)
  /-- A link with a result comes to its end. -/
  ends : ∀ outcome, (w.run T acts).result? n = some outcome →
    (w.run T acts).outcome? n = some outcome ∨
      ∃ due, (w.run T (acts ++ [.clock due, .task t])).outcome? n = some outcome

/-! ## §2. Records and hand-overs. -/

section Records

variable {w : World σ} {n k : Nat} {l : Link} {settings : Settings} {octets : Bytes}
  {peer : Frame}

theorem handOvers_of_read (h : w.deedsOf n = readLog l settings octets) : w.handOvers n = [] := by
  rw [handOvers, h]
  rfl

theorem handOvers_of_asked {holder : Option Handle}
    (h : w.deedsOf n = askedLog l k settings octets peer holder) : w.handOvers n = [] := by
  rw [handOvers, h]
  rfl

theorem handOvers_of_served (h : w.deedsOf n = servedLog l k settings octets peer) :
    w.handOvers n = [(peer.identity, max l.options.metric peer.metric)] := by
  rw [handOvers, h]
  rfl

/-- Whoever has a hand-over on the list is kept. -/
theorem kept_of_handOvers (h : w.handOvers n ≠ []) : w.Kept n := by
  obtain ⟨⟨identity, metric⟩, hin⟩ := List.exists_mem_of_ne_nil _ h
  obtain ⟨d, hd, he⟩ := List.mem_filterMap.mp hin
  cases d with
  | handedOver identity' metric' => exact ⟨identity', metric', hd⟩
  | _ => cases he

/-- Whoever was handed over has decided. -/
theorem Sound.decided_of_served {me : Identity} (hw : w.Sound me)
    (hds : w.deedsOf n = servedLog l k settings octets peer) : w.Decided n := by
  intro t h hp hh
  obtain ⟨-, hchronicle⟩ := hw.number_of_place hp hh
  rw [hds] at hchronicle
  unfold Handler.Chronicle at hchronicle
  unfold Handler.movesToDecide
  -- Before the decision, the record is shorter.
  cases hphase : h.phase with
  | received octets' =>
      rw [hphase] at hchronicle
      simp [servedLog, askedLog, readLog] at hchronicle
  | validated peer' =>
      rw [hphase] at hchronicle
      obtain ⟨octets', -, hlog⟩ := hchronicle
      simp [servedLog, askedLog, readLog] at hlog
  | registered peer' entry =>
      rw [hphase] at hchronicle
      obtain ⟨octets', -, -, hlog⟩ := hchronicle
      simp [servedLog, askedLog, readLog] at hlog
  | _ => rfl

end Records

/-! ## §3. From the frame to the decision. -/

variable {T : Transport σ} {me : Identity}

/-- The handler of a task has the peer's frame before it. -/
structure HasFrame (me : Identity) (w : World σ) (n t : Nat) (l : Link) (settings : Settings)
    (octets : Bytes) (peer : Frame) : Prop where
  sound : w.Sound me
  place : w.place n = .taken t
  undecided : w.movesToDecide t = 3
  pending : w.result? n = none
  log : w.deedsOf n = readLog l settings octets
  decoded : Frame.decode octets = .ok peer

namespace HasFrame

variable {w : World σ} {n t : Nat} {l : Link} {settings : Settings} {octets : Bytes}
  {peer : Frame} {acts : List (Act σ)}

/-- The frame stays on record. -/
theorem extends_read (h : HasFrame me w n t l settings octets peer) (T : Transport σ)
    (acts : List (Act σ)) : readLog l settings octets <+: (w.run T acts).deedsOf n :=
  h.log ▸ deedsOf_run h.sound acts n

theorem received (h : HasFrame me w n t l settings octets peer) (T : Transport σ)
    (acts : List (Act σ)) : Deed.received octets ∈ (w.run T acts).deedsOf n :=
  (h.extends_read T acts).subset (by simp [readLog])

/-- How the record goes on after the frame. -/
theorem cases_run (h : HasFrame me w n t l settings octets peer) (T : Transport σ)
    (acts : List (Act σ)) :
    (w.run T acts).deedsOf n = readLog l settings octets ∨
    (∃ holder, (w.run T acts).deedsOf n = askedLog l n settings octets peer holder) ∨
    Accepts l settings peer ∧
      (w.run T acts).deedsOf n = servedLog l n settings octets peer := by
  have hw := h.sound.run T acts
  obtain ⟨c, wire, task, -, hatt, hcn⟩ := hw.task_of_place (place_run h.sound h.place acts)
  obtain ⟨l', -, hstory, -⟩ := hatt.story
  rcases (hcn ▸ hstory).after_read (h.extends_read T acts) h.decoded with
    hread | ⟨hwel, hasked | hserved⟩
  · exact .inl hread
  · exact .inr (.inl hasked)
  · exact .inr (.inr ⟨Handler.verdict_eq_welcome.mp hwel.verdict, hserved⟩)

/-- **Once a link has decided, it was served, found its key taken, or was
refused, and has a result in the last two cases.** -/
theorem course (h : HasFrame me w n t l settings octets peer)
    (hd : (w.run T acts).Decided n) :
    (Accepts l settings peer ∧
      (w.run T acts).deedsOf n = servedLog l n settings octets peer) ∨
    (∃ existing, Accepts l settings peer ∧
      (w.run T acts).deedsOf n = askedLog l n settings octets peer (some existing) ∧
      (w.run T acts).Results n t acts (.duplicate existing)) ∨
    ((w.run T acts).deedsOf n = readLog l settings octets ∧
      ∃ outcome, Refuses l settings peer outcome ∧
        (w.run T acts).Results n t acts outcome) := by
  have hw := h.sound.run T acts
  -- There was no result before, so a cancellation belongs to this run.
  have hresults : ∀ {reason : Outcome}, (w.run T acts).result? n = some reason ∨
      (w.run T acts).result? n = some .cancelled →
      (w.run T acts).Results n t acts reason := by
    rintro reason (hr | hr)
    · exact .inl hr
    · refine .inr ⟨hr, ?_⟩
      rcases cancelled_run T h.sound h.place hr with hbefore | hin
      · rw [h.pending] at hbefore
        cases hbefore
      · exact hin
  -- What has settled must fit with the frame that was on record before.
  rcases hw.settled (h.received T acts) hd with ⟨l', settings', octets', peer', hds⟩ |
    ⟨l', reason, hrej, hr⟩
  · rcases h.cases_run T acts with hread | ⟨holder, hasked⟩ | hserved
    · rw [hds] at hread
      simp [servedLog, askedLog, readLog] at hread
    · rw [hds] at hasked
      simp [servedLog, askedLog, readLog] at hasked
    · exact .inl hserved
  · rcases hrej.after_read (h.extends_read T acts) h.decoded with
      ⟨hread, hrefuses⟩ | ⟨existing, hasked, haccepts, rfl⟩
    · exact .inr (.inr ⟨hread, reason, hrefuses, hresults hr⟩)
    · exact .inr (.inl ⟨existing, haccepts, hasked, hresults hr⟩)

/-- **To ask for a key is to have the question on record.** -/
theorem asks_iff (h : HasFrame me w n t l settings octets peer) {holder : Option Handle} :
    Asks T w acts t ⟨peer.identity, l.kind, l.source, l.remote⟩ holder ↔
      Deed.asked (l.entry n peer.identity) holder ∈ (w.run T acts).deedsOf n := by
  constructor
  · rintro ⟨before, after, h', peer', rfl, hh, hphase, hlookup⟩
    have hw := h.sound.run T before
    obtain ⟨hn, hchronicle⟩ := hw.number_of_place (place_run h.sound h.place before) hh
    -- The frame before the handler is still the same.
    simp only [Handler.Chronicle, hphase] at hchronicle
    obtain ⟨octets', hwel, hds⟩ := hchronicle
    have hsame := h.extends_read T before
    rw [hds] at hsame
    obtain ⟨⟨hlink, -⟩, rfl⟩ := by simpa [readLog] using hsame
    have hpeer := hwel.decoded
    rw [h.decoded] at hpeer
    cases hpeer
    obtain ⟨c, wire, -, hwire, -, -⟩ := hw.tends hh
    have hmove : h'.step (w.run T before).manager.toNode wire =
        some (h'.register (w.run T before).manager.toNode wire peer) := by
      rw [Handler.step, hphase]
    have hmoment := act_task T hw hh hwire hmove
    have hdeed : (n, Deed.asked (l.entry n peer.identity) holder) ∈
        ((w.run T before).act T (.task t)).deeds := by
      rw [hmoment.deeds]
      refine List.mem_append_right _ (List.mem_map.mpr ⟨_, ?_, by rw [hn]⟩)
      simp only [Handler.deeds, hphase, List.mem_singleton]
      subst hlink hn
      rw [← hlookup]
      rfl
    have hw' := (act_change T hw (.task t)).sound hw
    rw [mem_deedsOf, run_append]
    exact (deeds_run hw' after).subset hdeed
  · intro hd
    -- The question is not on record yet, so there is a moment at which it is put.
    rcases mem_deeds_run h.sound (mem_deedsOf.mp hd) with hold |
      ⟨before, t', after, h', wire, move, rfl, hmoment, hn, hnew⟩
    · rw [← mem_deedsOf, h.log] at hold
      simp [readLog] at hold
    · obtain ⟨peer', hphase, -, hlookup⟩ := of_mem_asked hnew
      have htask := (h.sound.run T before).task_of_number (place_run h.sound h.place before)
        hmoment.handler hn
      subst htask
      exact ⟨before, after, h', peer', rfl, hmoment.handler, hphase, hlookup.symm⟩

/-- The key is asked for once. -/
theorem asks_unique (h : HasFrame me w n t l settings octets peer)
    {holder holder' : Option Handle}
    (ha : Asks T w acts t ⟨peer.identity, l.kind, l.source, l.remote⟩ holder)
    (ha' : Asks T w acts t ⟨peer.identity, l.kind, l.source, l.remote⟩ holder') :
    holder = holder' :=
  ((h.sound.run T acts).asked_once (h.asks_iff.mp ha) (h.asks_iff.mp ha')).2

theorem asks_of_asked (h : HasFrame me w n t l settings octets peer) {holder : Option Handle}
    (hds : (w.run T acts).deedsOf n = askedLog l n settings octets peer holder) :
    Asks T w acts t ⟨peer.identity, l.kind, l.source, l.remote⟩ holder := by
  rw [h.asks_iff, hds]
  simp [askedLog]

theorem asks_of_served (h : HasFrame me w n t l settings octets peer)
    (hds : (w.run T acts).deedsOf n = servedLog l n settings octets peer) :
    Asks T w acts t ⟨peer.identity, l.kind, l.source, l.remote⟩ none := by
  rw [h.asks_iff, hds]
  simp [servedLog, askedLog]

/-- What a refused link gets, by the first condition that fails. -/
theorem course_of_refused (h : HasFrame me w n t l settings octets peer)
    (hd : (w.run T acts).Decided n) (hnot : ¬ Accepts l settings peer) :
    ∃ outcome, Refuses l settings peer outcome ∧ (w.run T acts).Results n t acts outcome := by
  rcases h.course hd with ⟨ha, -⟩ | ⟨existing, ha, -⟩ | ⟨-, hrefused⟩
  · exact absurd ha hnot
  · exact absurd ha hnot
  · exact hrefused

/-- **A link is handed over if its peer is acceptable and its key is free.** -/
theorem handOvers_ne_nil_iff (h : HasFrame me w n t l settings octets peer) :
    (w.run T acts).handOvers n ≠ [] ↔ (w.run T acts).Decided n ∧ Accepts l settings peer ∧
      Asks T w acts t ⟨peer.identity, l.kind, l.source, l.remote⟩ none := by
  constructor
  · intro hne
    rcases h.cases_run T acts with hread | ⟨holder, hasked⟩ | ⟨haccepts, hserved⟩
    · exact absurd (handOvers_of_read hread) hne
    · exact absurd (handOvers_of_asked hasked) hne
    · exact ⟨(h.sound.run T acts).decided_of_served hserved, haccepts, h.asks_of_served hserved⟩
  · rintro ⟨hd, haccepts, hfree⟩
    rcases h.course hd with ⟨-, hserved⟩ | ⟨existing, -, hasked, -⟩ | ⟨-, outcome, hrefuses, -⟩
    · rw [handOvers_of_served hserved]
      exact List.cons_ne_nil _ _
    · cases h.asks_unique hfree (h.asks_of_asked hasked)
    · exact absurd haccepts hrefuses.not_accepts

/-- What comes of a link with a frame before it, in all its parts. -/
theorem admission_run (h : HasFrame me w n t l settings octets peer) (T : Transport σ)
    (acts : List (Act σ)) : Admission T settings l n t peer w acts := by
  have hw := h.sound.run T acts
  have hplace := place_run (T := T) h.sound h.place acts
  constructor
  case once =>
      rcases h.cases_run T acts with hread | ⟨holder, hasked⟩ | ⟨-, hserved⟩
      · exact .inl (handOvers_of_read hread)
      · exact .inl (handOvers_of_asked hasked)
      · exact .inr (handOvers_of_served hserved)
  case admitted => exact h.handOvers_ne_nil_iff
  case decides =>
      intro hcount
      have hle := movesToDecide_run T h.sound h.place (h.received T []) acts
      rw [h.undecided] at hle
      exact decided_of_movesToDecide hplace (by omega)
  case asks =>
      intro hd haccepts
      rcases h.course hd with ⟨-, hserved⟩ | ⟨existing, -, hasked, -⟩ | ⟨-, outcome, hrefuses, -⟩
      · exact ⟨none, h.asks_of_served hserved,
          fun _ ha => h.asks_unique ha (h.asks_of_served hserved)⟩
      · exact ⟨some existing, h.asks_of_asked hasked,
          fun _ ha => h.asks_unique ha (h.asks_of_asked hasked)⟩
      · exact absurd haccepts hrefuses.not_accepts
  case incompatible =>
      intro hd hversion
      obtain ⟨outcome, hrefuses, hresult⟩ := h.course_of_refused hd (fun ha => hversion ha.version)
      rcases hrefuses.first_failure with ⟨-, rfl⟩ | ⟨hv, -⟩ | ⟨hv, -⟩
      · exact hresult
      · exact absurd hv hversion
      · exact absurd hv hversion
  case notPinned =>
      intro hd hversion hpinned
      obtain ⟨outcome, hrefuses, hresult⟩ := h.course_of_refused hd (fun ha => hpinned ha.pinned)
      rcases hrefuses.first_failure with ⟨hv, -⟩ | ⟨-, -, rfl⟩ | ⟨-, hp, -⟩
      · exact absurd hversion hv
      · exact hresult
      · exact absurd hp hpinned
  case notAllowed =>
      intro hd hversion hpinned hallowed
      obtain ⟨outcome, hrefuses, hresult⟩ :=
        h.course_of_refused hd (fun ha => hallowed ha.allowed)
      rcases hrefuses.first_failure with ⟨hv, -⟩ | ⟨-, hp, -⟩ | ⟨-, -, -, rfl⟩
      · exact absurd hversion hv
      · exact absurd hpinned hp
      · exact hresult
  case duplicate =>
      intro hd haccepts existing htaken
      rcases h.course hd with ⟨-, hserved⟩ | ⟨existing', -, hasked, hresult⟩ |
        ⟨-, outcome, hrefuses, -⟩
      · cases h.asks_unique htaken (h.asks_of_served hserved)
      · cases h.asks_unique htaken (h.asks_of_asked hasked)
        exact hresult
      · exact absurd haccepts hrefuses.not_accepts
  case ends =>
      intro outcome hr
      simp only [run_append]
      exact hw.ends T hplace hr

end HasFrame

/-! ## §4. Handshakes. -/

variable {w₀ w₁ : World σ} {t : Nat} {h : Handler} {octets : Bytes}

namespace Handshake

/-- A handler that begins puts its link and the settings of that moment on
record. -/
theorem began (hs : Handshake T w₀ w₁ t h octets) (hw : w₀.Sound me) :
    Deed.began h.link w₀.manager.settings ∈ (w₀.act T (.task t)).deedsOf h.number := by
  obtain ⟨c, wire, -, hwire, -, -⟩ := hw.tends hs.handler
  have hmove : h.step w₀.manager.toNode wire = some (h.begin w₀.manager.toNode wire) := by
    rw [Handler.step, hs.fresh]
  have hmoment := act_task T hw hs.handler hwire hmove
  rw [mem_deedsOf, hmoment.deeds]
  refine List.mem_append_right _ (List.mem_map.mpr ⟨_, ?_, rfl⟩)
  simp [Handler.deeds, hs.fresh, hs.running]

/-- **At the end of a handshake the handler has the peer's frame before it, and
on record is what it began with.** -/
theorem hasFrame (hs : Handshake T w₀ w₁ t h octets) (hw : w₀.Sound me) :
    octets.length = frameLength ∧ octets <+: w₁.arrivedAt h.number ∧
    w₁.sentAt h.number = (h.link.frame me).encode ∧
    ∃ peer, HasFrame me w₁ h.number t h.link w₀.manager.settings octets peer := by
  obtain ⟨acts, rfl⟩ := hs.between
  obtain ⟨h₁, hh₁, hphase⟩ := hs.received
  have hc := act_change T hw (.task t)
  have hw' := hc.sound hw
  have hw₁ := hw'.run T acts
  have hplace := place_run (T := T) hw' (hc.place hw (hw.holders t h hs.handler)) acts
  obtain ⟨hn, hchronicle⟩ := hw₁.number_of_place hplace hh₁
  simp only [Handler.Chronicle, hphase] at hchronicle
  -- The beginning on record is that of this handler, so link and settings have
  -- stayed the same.
  have hbegan := (deedsOf_run (T := T) hw' acts h.number).subset (hs.began hw)
  rw [hchronicle] at hbegan
  obtain ⟨hlink, hsettings⟩ : h.link = h₁.link ∧ w₀.manager.settings = h₁.settings := by
    simpa [readLog] using hbegan
  rw [← hlink, ← hsettings] at hchronicle
  obtain ⟨c, wire, -, hwire, -, htends⟩ := hw₁.tends hh₁
  rw [hn] at hwire
  have hwired := htends.wired
  simp only [Handler.Wired, hphase] at hwired
  have hread : Deed.received octets ∈
      (((w₀.act T (.task t)).run T acts).deedsOf h.number) := by
    rw [hchronicle]
    simp [readLog]
  obtain ⟨hlen, harrived⟩ := hw₁.received hread
  obtain ⟨peer, hd⟩ := Frame.decode_isOk_iff.mpr hlen
  refine ⟨hlen, harrived, ?_, peer, hw₁, hplace, ?_, ?_, hchronicle, hd⟩
  · rw [sentAt, hwire, hlink]
    exact hwired.2
  · rw [movesToDecide_of_handler hh₁, Handler.movesToDecide, hphase]
  · rw [result_of_handler hplace hh₁, Handler.result?, hphase]

end Handshake

/-- Whoever receives the last octet has the frame before it. -/
theorem received_of_moment {w w' : World σ} {wire : Wire} {move : Handler.Move}
    (hm : Moment w w' t h wire move)
    (hd : Deed.received octets ∈ h.deeds w.manager.toNode move) :
    w'.handler? t = some move.handler ∧ move.handler.phase = .received octets := by
  obtain ⟨due, hphase, hlen⟩ := of_mem_received hd
  exact ⟨hm.next, hm.turn.of_receiving hphase hlen⟩

/-- Who has just begun has no frame on record. -/
theorem Moment.not_received {w w' : World σ} {wire : Wire} {move : Handler.Move}
    (hm : Moment w w' t h wire move) (hw : w.Sound me) (hp : h.phase = .fresh) :
    (h.number, Deed.received octets) ∉ w'.deeds := by
  obtain ⟨-, hchronicle⟩ := hw.number_of_place (hw.holders t h hm.handler) hm.handler
  simp only [Handler.Chronicle, hp] at hchronicle
  intro hin
  rw [hm.deeds] at hin
  rcases List.mem_append.mp hin with hold | hnew
  · rw [← mem_deedsOf, hchronicle] at hold
    cases hold
  · obtain ⟨d, hd, he⟩ := List.mem_map.mp hnew
    cases he
    obtain ⟨due, hphase, -⟩ := of_mem_received hd
    rw [hp] at hphase
    cases hphase

/-- **Whoever is handed over has been through a handshake.** -/
theorem handshake_of_handOvers {w : World σ} (hw : w.Sound me) (hnil : w.deeds = [])
    {acts : List (Act σ)} {n : Nat} (hne : (w.run T acts).handOvers n ≠ []) :
    ∃ before after t h octets w₁, Handshake T (w.run T before) w₁ t h octets ∧
      h.number = n ∧ w₁.run T after = w.run T acts := by
  obtain ⟨l, settings, octets, peer, hds⟩ := (hw.run T acts).served_of_kept
    (kept_of_handOvers hne)
  have hbegan : (n, Deed.began l settings) ∈ (w.run T acts).deeds := by
    rw [← mem_deedsOf, hds]
    simp [servedLog, askedLog, readLog]
  have hreceived : (n, Deed.received octets) ∈ (w.run T acts).deeds := by
    rw [← mem_deedsOf, hds]
    simp [servedLog, askedLog, readLog]
  -- The start is one moment of the run, the frame a later one.
  rcases mem_deeds_run hw hbegan with hold |
    ⟨before, t, rest, h, wire, move, rfl, hstart, rfl, hnew⟩
  · rw [hnil] at hold
    cases hold
  obtain ⟨hfresh, hrunning, -, -⟩ := of_mem_began hnew
  have hw₀ := hw.run T before
  have hw' := (act_change T hw₀ (.task t)).sound hw₀
  have hsplit : w.run T (before ++ .task t :: rest) =
      ((w.run T before).act T (.task t)).run T rest := by
    rw [run_append]
    rfl
  rw [run_append] at hstart
  rw [hsplit] at hreceived
  rcases mem_deeds_run hw' hreceived with hold |
    ⟨mid, t', after, h', wire', move', rfl, hmoment, hn, hnew'⟩
  · exact absurd hold (hstart.not_received hw₀ hfresh)
  · have hplace := place_run (T := T) hw' ((act_change T hw₀ (.task t)).place hw₀
      (hw₀.holders t h hstart.handler)) mid
    have htask := (hw'.run T mid).task_of_number hplace hmoment.handler hn
    obtain ⟨hnext, hphase⟩ := received_of_moment hmoment hnew'
    rw [htask] at hnext
    refine ⟨before, after, t, h, octets, _,
      ⟨hstart.handler, hfresh, hrunning, ⟨_, rfl⟩, _, hnext, hphase⟩, rfl, ?_⟩
    rw [hsplit, ← run_append, List.append_assoc, htask]
    rfl

/-- **The engine gets the links of acceptable peers under free keys, and no
others.** -/
theorem admission (T : Transport σ) (me : Identity) (settings : Settings) (engine : Engine)
    (state : σ) :
    let w := start me settings engine state
    (∀ before after t h octets w₁, Handshake T (w.run T before) w₁ t h octets →
      octets <+: w₁.arrivedAt h.number ∧
      w₁.sentAt h.number = (h.link.frame me).encode ∧
      ∃ peer : Frame,
        octets = peer.major :: peer.minor :: (peer.identity.bytes ++ [peer.metric]) ∧
        Admission T (w.run T before).manager.settings h.link h.number t peer w₁ after) ∧
    (∀ acts n, (w.run T acts).handOvers n ≠ [] → ∃ before after t h octets w₁,
      Handshake T (w.run T before) w₁ t h octets ∧ h.number = n ∧
      w₁.run T after = w.run T acts) := by
  intro w
  have hw : w.Sound me := sound_start me settings engine state
  refine ⟨?_, fun acts n hne => handshake_of_handOvers hw rfl hne⟩
  intro before after t h octets w₁ hs
  obtain ⟨-, harrived, hsent, peer, hframe⟩ := hs.hasFrame (hw.run T before)
  exact ⟨harrived, hsent, peer, Frame.encode_of_decode hframe.decoded,
    hframe.admission_run T after⟩

/-- The accepted connection's handler has begun, and has the remote end's frame
before it. -/
def answered : World Script :=
  ((scriptedNode.run Script.transport accepted).act Script.transport (.task 0)).run
    Script.transport (List.replicate 3 (.task 0) ++ answer.take 3)

/-- The handler of that connection at its start. -/
def acceptedHandler : Handler where
  number := 0
  link := ⟨"peer", .tcp, "near", "far", true, false, {}⟩

theorem handshake_answered :
    Handshake Script.transport (scriptedNode.run Script.transport accepted) answered 0
      acceptedHandler (Frame.own (.replicate 0xbb) 3).encode where
  handler := rfl
  fresh := rfl
  running := rfl
  between := ⟨_, rfl⟩
  received := ⟨_, rfl, rfl⟩

/-- What comes of that connection in the next three moves of its handler. -/
theorem admission_answered :
    Handshake Script.transport (scriptedNode.run Script.transport accepted) answered 0
      acceptedHandler (Frame.own (.replicate 0xbb) 3).encode ∧
    (∃ peer, Admission Script.transport {} acceptedHandler.link 0 0 peer answered
      (List.replicate 3 (.task 0))) ∧
    (answered.run Script.transport (List.replicate 3 (.task 0))).handOvers 0 =
      [(.replicate 0xbb, 3)] := by
  have hs := handshake_answered
  have hover : (answered.run Script.transport (List.replicate 3 (.task 0))).handOvers 0 =
      [(.replicate 0xbb, 3)] := by decide +kernel
  refine ⟨hs, ?_, hover⟩
  unfold scriptedNode at hs
  have h := admission Script.transport (.replicate 0xaa) {} .collect {}
  obtain ⟨-, -, peer, -, hadmission⟩ := h.1 accepted (List.replicate 3 (.task 0)) 0 _ _ _ hs
  exact ⟨peer, hadmission⟩

end World

end LinkLayer

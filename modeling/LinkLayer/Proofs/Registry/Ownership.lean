/-
  LinkLayer.Proofs.Registry.Ownership
  ───────────────────────────────────
  **WHO OWNS THE ENTRIES OF THE REGISTRY.**

  A link joins the registry by a registration under a free key (`Joined`) and
  is over as soon as it has an outcome: its engine returned or collapsed, or
  it was cancelled.  In between it owns one entry (`Owns`), under the key that
  is made of the peer's frame and the labels of the connection.

    • `registry_ownership` — after every run, the entries are those of the
      links that have joined and are not over; the signals of the others have
      fired.

  Nothing is assumed of the run: connections are made and used in any order,
  remote ends and engines do as they please, and whatever waits can be
  cancelled.
-/
import LinkLayer.Proofs.World.Preservation
import Mathlib.Data.List.Nodup

namespace LinkLayer

namespace Handler

variable {h : Handler} {ds : List Deed}

/-- A handler that was registered and has not ended holds the entry. -/
theorem Chronicle.entry_of_asked (hc : h.Chronicle ds) {e : Handle}
    (he : Deed.asked e none ∈ ds) (ho : h.outcome? = none) : h.entry? = some e := by
  unfold Chronicle at hc
  unfold outcome? at ho
  unfold entry?
  cases hp : h.phase with
  | registered peer entry =>
      rw [hp] at hc
      obtain ⟨octets, -, rfl, rfl⟩ := hc
      simpa [askedLog, readLog, eq_comm] using he
  | tunnelling entry session =>
      rw [hp] at hc
      obtain ⟨octets, peer, -, rfl, rfl⟩ := hc
      simpa [servedLog, askedLog, readLog, eq_comm] using he
  | leaving entry result =>
      rw [hp] at hc
      obtain ⟨octets, peer, -, rfl, rfl⟩ := hc
      simpa [servedLog, askedLog, readLog, eq_comm] using he
  | closing due outcome =>
      rw [hp] at hc
      exact absurd ⟨e, he⟩ hc.not_registered
  | ended outcome => simp [hp] at ho
  | validated peer =>
      rw [hp] at hc
      obtain ⟨octets, -, rfl⟩ := hc
      simp [readLog] at he
  | _ => simp_all [readLog]

/-- A handler that holds an entry was registered with it. -/
theorem Chronicle.asked_of_entry (hc : h.Chronicle ds) {e : Handle}
    (he : h.entry? = some e) : Deed.asked e none ∈ ds ∧ h.outcome? = none := by
  unfold Chronicle at hc
  unfold entry? at he
  unfold outcome?
  cases hp : h.phase with
  | registered peer entry =>
      rw [hp] at hc he
      obtain ⟨octets, -, rfl, rfl⟩ := hc
      cases he
      simp [askedLog]
  | tunnelling entry session =>
      rw [hp] at hc he
      obtain ⟨octets, peer, -, rfl, rfl⟩ := hc
      cases he
      simp [servedLog, askedLog]
  | leaving entry result =>
      rw [hp] at hc he
      obtain ⟨octets, peer, -, rfl, rfl⟩ := hc
      cases he
      simp [servedLog, askedLog]
  | _ => simp [hp] at he

/-- Where a handler with an entry waits, it waits for its engine. -/
theorem tunnelling_of_entry {e : Handle} (he : h.entry? = some e) (hb : h.isBusy = false) :
    ∃ session, h.phase = .tunnelling e session := by
  unfold entry? at he
  unfold isBusy at hb
  cases hp : h.phase with
  | tunnelling entry session =>
      rw [hp] at he
      cases he
      exact ⟨session, rfl⟩
  | _ => simp_all

end Handler

namespace World

variable {σ : Type} {me : Identity} {w : World σ}

/-! ## §1. Joining and owning. -/

/-- The link of a connection was registered. -/
def Joined (w : World σ) (n : Nat) : Prop := ∃ e, Deed.asked e none ∈ w.deedsOf n

/-- A handle belongs to a link whose handler runs.  Its key is made of the
identity in the frame that came first on the link's own connection, and of
the labels of that connection.  Wherever the handler waits, it waits for its
engine. -/
def Owns (w : World σ) (e : Handle) : Prop :=
  ∃ c wire frame t h, w.connection e.id = some c ∧ w.wire? e.id = some wire ∧
    Frame.decode (wire.taken.take frameLength) = .ok frame ∧
    e.key = ⟨frame.identity, c.kind, c.source, c.remote⟩ ∧
    w.place e.id = .taken t ∧ w.handler? t = some h ∧ h.entry? = some e ∧
    (h.isBusy = false → ∃ session, h.phase = .tunnelling e session)

/-! ## §2. Sound worlds. -/

/-- **The entries are those of the links that joined and are not over.** -/
theorem Sound.mem_entries (hw : w.Sound me) (n : Nat) :
    n ∈ w.manager.registry.entries.map (·.id) ↔ w.Joined n ∧ w.outcome? n = none := by
  rw [List.mem_map]
  constructor
  · rintro ⟨e, he, rfl⟩
    obtain ⟨t, h, hh, hentry⟩ := (hw.entries e).mp he
    obtain ⟨c, wire, -, -, -, htends⟩ := hw.tends hh
    obtain ⟨hasked, hnone⟩ := htends.chronicle.asked_of_entry hentry
    rw [hw.entry_id hh hentry, hw.outcome_of_handler hh]
    exact ⟨⟨e, hasked⟩, hnone⟩
  · rintro ⟨⟨e, hasked⟩, hnone⟩
    -- Whoever joined and is not over has a handler that still holds the entry.
    obtain ⟨t, c, wire, task, hp, hc, hcw, hwire, ht, hatt⟩ := hw.of_mem_deedsOf hasked
    have hh := handler?_of_find? ht
    obtain ⟨origin, activity⟩ := task
    cases activity with
    | handling h =>
        have htends : h.Tends me w.manager.registry.fired c wire (w.deedsOf n) := hatt
        have hn : h.number = n := htends.number.trans hcw
        have ho : h.outcome? = none := by
          rw [← hw.outcome_of_handler hh, hn]
          exact hnone
        have hentry := htends.chronicle.entry_of_asked hasked ho
        exact ⟨e, (hw.entries e).mpr ⟨t, h, hh, hentry⟩, (hw.entry_id hh hentry).trans hn⟩
    | done outcome =>
        unfold outcome? at hnone
        simp [hp, ht] at hnone
    | calling target => exact hatt.elim
    | dialling target options => exact hatt.elim

/-- No two entries are of one link. -/
theorem Sound.nodup_ids (hw : w.Sound me) :
    (w.manager.registry.entries.map (·.id)).Nodup := by
  have hnodup : w.manager.registry.entries.Nodup :=
    hw.proper.imp fun hkey heq => hkey (congrArg Handle.key heq)
  -- Two entries of one link are held by one handler, and it holds one only.
  refine List.Nodup.map_on ?_ hnodup
  intro e he e' he' hid
  obtain ⟨t, h, hh, hentry⟩ := (hw.entries e).mp he
  obtain ⟨t', h', hh', hentry'⟩ := (hw.entries e').mp he'
  have hn : h.number = h'.number := by
    rw [← hw.entry_id hh hentry, ← hw.entry_id hh' hentry', hid]
  have ht := hw.task_eq hh hh' hn
  subst ht
  rw [hh] at hh'
  cases hh'
  rw [hentry] at hentry'
  cases hentry'
  rfl

/-- **Every entry is found under its own key, and its signal is silent.** -/
theorem Sound.owns (hw : w.Sound me) {e : Handle} (he : e ∈ w.manager.registry.entries) :
    w.Owns e ∧ w.manager.registry.lookup e.key = some e ∧ e.id ∉ w.manager.registry.fired := by
  obtain ⟨t, h, hh, hentry⟩ := (hw.entries e).mp he
  obtain ⟨c, wire, hc, hwire, hcw, htends⟩ := hw.tends hh
  obtain ⟨hasked, hnone⟩ := htends.chronicle.asked_of_entry hentry
  have hid := hw.entry_id hh hentry
  obtain ⟨settings, octets, frame, hwel, rfl, hpre⟩ := htends.chronicle.story.of_asked hasked
  -- The frame on record is what came first on the wire.
  have hreceived : Deed.received octets ∈ w.deedsOf h.number :=
    hpre.subset (by simp [Handler.askedLog, Handler.readLog])
  obtain ⟨hlen, htaken⟩ := htends.receipt octets hreceived
  have htake : wire.taken.take frameLength = octets := by
    rw [← hlen]
    exact (List.prefix_iff_eq_take.mp htaken).symm
  refine ⟨⟨c, wire, frame, t, h, hc, hwire, ?_, ?_, hw.holders t h hh, hh, hentry,
    Handler.tunnelling_of_entry hentry⟩, hw.proper.lookup_of_mem he, ?_⟩
  · rw [htake]
    exact hwel.decoded
  · show (⟨_, h.link.kind, h.link.source, h.link.remote⟩ : LinkKey) = _
    rw [htends.labels.kind, htends.labels.source, htends.labels.remote]
  · have hfired := htends.fired
    rw [hnone, hcw] at hfired
    simp [hfired, hid]

/-- **The signal of a link that joined and is over has fired.** -/
theorem Sound.fired_of_over (hw : w.Sound me) {n : Nat} (hj : w.Joined n)
    (ho : w.outcome? n ≠ none) : n ∈ w.manager.registry.fired := by
  obtain ⟨e, hasked⟩ := hj
  obtain ⟨t, c, wire, task, hp, hc, hcw, hwire, ht, hatt⟩ := hw.of_mem_deedsOf hasked
  have hh := handler?_of_find? ht
  obtain ⟨origin, activity⟩ := task
  cases activity with
  | handling h =>
      have htends : h.Tends me w.manager.registry.fired c wire (w.deedsOf n) := hatt
      rw [← hcw, htends.fired]
      have hsome := hw.outcome_of_handler hh
      rw [htends.number.trans hcw] at hsome
      rw [hsome] at ho
      exact ⟨Option.isSome_iff_ne_none.mpr ho, e, hasked⟩
  | done outcome =>
      obtain ⟨l, hl⟩ := hatt
      rw [← hcw, hl.fired]
      exact ⟨e, hasked⟩
  | calling target => exact hatt.elim
  | dialling target options => exact hatt.elim

/-! ## §3. Runs. -/

/-- **The registry belongs to the links that are up.**  After every run of a
node,

  • the entries are those of the links that have joined and are not over, one
    for each of them,
  • each entry belongs to a handler that runs, is found under the key of its
    connection and of the peer's frame, and has a signal that did not fire,
  • a link that has joined and is over has no entry, and its signal has
    fired. -/
theorem registry_ownership (T : Transport σ) (me : Identity) (settings : Settings)
    (engine : Engine) (state : σ) (acts : List (Act σ)) :
    let w := (start me settings engine state).run T acts
    let r := w.manager.registry
    (r.entries.map (·.id)).Nodup ∧
    (∀ n, n ∈ r.entries.map (·.id) ↔ w.Joined n ∧ w.outcome? n = none) ∧
    (∀ e ∈ r.entries, w.Owns e ∧ r.lookup e.key = some e ∧ e.id ∉ r.fired) ∧
    (∀ n, w.Joined n → w.outcome? n ≠ none → n ∉ r.entries.map (·.id) ∧ n ∈ r.fired) := by
  intro w r
  have hw : w.Sound me := sound_run T me settings engine state acts
  refine ⟨hw.nodup_ids, hw.mem_entries, fun e he => hw.owns he, ?_⟩
  intro n hj ho
  refine ⟨?_, hw.fired_of_over hj ho⟩
  intro hin
  exact ho ((hw.mem_entries n).mp hin).2

end World

end LinkLayer

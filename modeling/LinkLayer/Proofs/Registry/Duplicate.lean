/-
  LinkLayer.Proofs.Registry.Duplicate
  ───────────────────────────────────
  **WHAT A DUPLICATE IS TOLD.**

  A link that finds its key taken ends with the handle of the link that has
  it.  The number of that handle names one signal for good: links that take
  the key later have other numbers.  So the signal speaks of the link that was
  found, whatever becomes of the key.

    • `Sound.fired_iff` — the signal of a registered link has fired if and
      only if the link is in the registry no more,
    • `Sound.asked_of_duplicate` — whoever ends as a duplicate asked for its
      key, and found the holder that it names,
    • `Sound.result_of_asked` — and whoever finds a holder ends as its
      duplicate, or is cancelled during the close,
    • `duplicate_signal` — both for all runs, and for any number of links that
      ask for one key while the first of them is live.
-/
import LinkLayer.Proofs.World.Admission
import LinkLayer.Proofs.World.AfterStop
import Mathlib.Data.Set.Defs

namespace LinkLayer

/-! ## §1. Records with a holder. -/

namespace Handler

variable {l : Link} {n : Nat} {ds : List Deed} {outcome : Outcome} {entry holder : Handle}

/-- Only whoever asked and found a holder is rejected as its duplicate. -/
theorem Rejected.asked (h : Rejected l n ds (.duplicate holder)) :
    ∃ entry, Deed.asked entry (some holder) ∈ ds := by
  cases h with
  | turnedAway hd hr => cases hr
  | @duplicate _ _ peer _ hwel => exact ⟨l.entry n peer.identity, by simp [askedLog]⟩

/-- Whoever was rejected with a holder on record is its duplicate. -/
theorem Rejected.of_asked (h : Rejected l n ds outcome)
    (ha : Deed.asked entry (some holder) ∈ ds) : outcome = .duplicate holder := by
  cases h with
  | stopped => simp at ha
  | broken => simp at ha
  | turnedAway => simp [readLog] at ha
  | duplicate hwel =>
      obtain ⟨-, rfl⟩ : entry = _ ∧ holder = _ := by simpa [askedLog, readLog] using ha
      rfl

theorem Over.asked (h : Over l n ds (.duplicate holder)) :
    ∃ entry, Deed.asked entry (some holder) ∈ ds := by
  -- An engine's return is no duplicate.
  generalize ho : Outcome.duplicate holder = o at h
  cases h with
  | rejected hr => exact (ho ▸ hr).asked
  | @served _ _ _ result hwel => cases result <;> cases ho
  | collapsed hwel => cases ho
  | cancelled hp => cases ho

/-- A handler with a question on record has one move to make at most until it
has decided. -/
theorem Chronicle.movesToDecide_le {h : Handler} {holder : Option Handle}
    (hc : h.Chronicle ds) (ha : Deed.asked entry holder ∈ ds) :
    h.movesToDecide ≤ 1 ∧ (h.movesToDecide = 1 → holder = none) := by
  unfold Chronicle at hc
  unfold movesToDecide
  cases hp : h.phase with
  | received octets =>
      rw [hp] at hc
      simp [hc, readLog] at ha
  | validated peer =>
      rw [hp] at hc
      obtain ⟨octets, -, rfl⟩ := hc
      simp [readLog] at ha
  | registered peer e =>
      rw [hp] at hc
      obtain ⟨octets, -, -, rfl⟩ := hc
      obtain ⟨-, rfl⟩ : entry = _ ∧ holder = none := by simpa [askedLog, readLog] using ha
      exact ⟨Nat.le_refl 1, fun _ => rfl⟩
  | _ => simp

end Handler

namespace World

variable {σ : Type} {T : Transport σ} {me : Identity} {w w' : World σ} {a : Act σ} {n t : Nat}

/-! ## §2. The signal of one link. -/

/-- **A signal that has fired stays fired.** -/
theorem Change.fired (hc : Change w a w') (hf : n ∈ w.manager.registry.fired) :
    n ∈ w'.manager.registry.fired := by
  -- Only moves and cancellations of handlers reach the registry.
  have heffect : ∀ {h : Handler} {move : Handler.Move},
      Handler.Effect w.manager.registry h move → n ∈ move.registry.fired := by
    intro h move he
    cases he with
    | keep hr => rw [hr]; exact hf
    | enter entry hnone hl hr => rw [hr]; exact hf
    | leave entry hsome hnone hr =>
        rw [hr, Registry.mem_fired_deregister]
        exact .inr hf
  cases hc with
  | keep hm => rw [hm.registry]; exact hf
  | take hl hcon ht hlt hnone hm => exact hm.registry.symm ▸ hf
  | idle hi ht hm => rw [hm.registry]; exact hf
  | move ha ht hwire hturn => exact heffect hturn.effect
  | cancel ht hwire hbusy => exact heffect Handler.cancel_effect
  | _ => exact hf

theorem fired_run (hw : w.Sound me) (hf : n ∈ w.manager.registry.fired)
    (acts : List (Act σ)) : n ∈ (w.run T acts).manager.registry.fired :=
  hw.run_keeps T (p := fun w => n ∈ w.manager.registry.fired)
    (fun hw hf => (act_change T hw _).fired hf) hf acts

/-- The entry of a link that has one is the one that it asked for. -/
theorem Sound.entry_eq (hw : w.Sound me) {e e' : Handle}
    (ha : Deed.asked e none ∈ w.deedsOf n) (he' : e' ∈ w.manager.registry.entries)
    (hid : e'.id = n) : e' = e := by
  obtain ⟨t, h, hh, hentry⟩ := (hw.entries e').mp he'
  obtain ⟨c, wire, -, -, -, htends⟩ := hw.tends hh
  obtain ⟨hasked, -⟩ := htends.chronicle.asked_of_entry hentry
  rw [← hw.entry_id hh hentry, hid] at hasked
  exact (hw.asked_once hasked ha).1

/-- Whoever joined the registry did so under its own number. -/
theorem Sound.id_of_asked (hw : w.Sound me) {e : Handle} {holder : Option Handle}
    (ha : Deed.asked e holder ∈ w.deedsOf n) : e.id = n := by
  obtain ⟨l, c, -, -, hstory⟩ := hw.story ha
  obtain ⟨settings, octets, peer, -, rfl, -⟩ := hstory.of_asked ha
  rfl

/-- **The signal of a registered link has fired if and only if the link is in
the registry no more.** -/
theorem Sound.fired_iff (hw : w.Sound me) {e : Handle}
    (ha : Deed.asked e none ∈ w.deedsOf e.id) :
    e.id ∈ w.manager.registry.fired ↔ e ∉ w.manager.registry.entries := by
  constructor
  · intro hf he
    exact (hw.owns he).2.2 hf
  · intro he
    -- A link that is not over has its entry, and that is this one.
    refine hw.fired_of_over ⟨e, ha⟩ ?_
    intro ho
    obtain ⟨e', he', hid⟩ := List.mem_map.mp ((hw.mem_entries e.id).mpr ⟨⟨e, ha⟩, ho⟩)
    exact he (hw.entry_eq ha he' hid ▸ he')

/-! ## §3. Asking for a key. -/

/-- A link is in the registry. -/
def Live (w : World σ) (n : Nat) : Prop := n ∈ w.manager.registry.entries.map (·.id)

/-- The handler of a connection comes to ask for a key with its next move. -/
def AsksFor (w : World σ) (n t : Nat) (key : LinkKey) : Prop :=
  ∃ h peer, w.handler? t = some h ∧ h.number = n ∧ h.phase = .validated peer ∧
    (h.handle peer.identity).key = key

/-- In the course of a run, the handler of a connection asks for a key, at a
moment at which something holds of the node. -/
def AsksWhen (T : Transport σ) (w : World σ) (acts : List (Act σ)) (n : Nat) (key : LinkKey)
    (P : World σ → Prop) : Prop :=
  ∃ before t after, acts = before ++ .task t :: after ∧
    (w.run T before).AsksFor n t key ∧ P (w.run T before)

/-- Whoever asks has the question on record, with the holder of that moment. -/
theorem AsksFor.asked {key : LinkKey} (ha : w.AsksFor n t key) (hw : w.Sound me)
    (T : Transport σ) :
    ∃ entry, entry.key = key ∧
      Deed.asked entry (w.manager.registry.lookup key) ∈ (w.act T (.task t)).deedsOf n := by
  obtain ⟨h, peer, hh, rfl, hphase, rfl⟩ := ha
  obtain ⟨c, wire, -, hwire, -, -⟩ := hw.tends hh
  have hmove : h.step w.manager.toNode wire = some (h.register w.manager.toNode wire peer) := by
    rw [Handler.step, hphase]
  have hmoment := act_task T hw hh hwire hmove
  refine ⟨h.handle peer.identity, rfl, ?_⟩
  rw [mem_deedsOf, hmoment.deeds]
  refine List.mem_append_right _ (List.mem_map.mpr ⟨_, ?_, rfl⟩)
  simp only [Handler.deeds, hphase, List.mem_singleton]

/-- Whoever comes to ask has no result yet. -/
theorem AsksFor.pending {key : LinkKey} (ha : w.AsksFor n t key) (hw : w.Sound me) :
    w.place n = .taken t ∧ w.result? n = none := by
  obtain ⟨h, peer, hh, rfl, hphase, -⟩ := ha
  have hp := hw.holders t h hh
  refine ⟨hp, ?_⟩
  rw [result_of_handler hp hh, Handler.result?, hphase]

/-- **Whoever ends as a duplicate asked for its key, and found the holder that
it names.** -/
theorem Sound.asked_of_duplicate (hw : w.Sound me) {holder : Handle}
    (hr : w.result? n = some (.duplicate holder)) :
    ∃ entry, Deed.asked entry (some holder) ∈ w.deedsOf n := by
  obtain ⟨l, c, -, -, hover⟩ := hw.over_of_result hr
  exact hover.asked

/-- **Whoever found a holder ends as its duplicate, unless it is cancelled.** -/
theorem Sound.result_of_asked (hw : w.Sound me) {entry holder : Handle}
    (ha : Deed.asked entry (some holder) ∈ w.deedsOf n) :
    w.result? n = some (.duplicate holder) ∨ w.result? n = some .cancelled := by
  obtain ⟨octets, hread⟩ := hw.received_of_asked ha
  have hdecided : w.Decided n := by
    intro t h hp hh
    obtain ⟨-, hc⟩ := hw.number_of_place hp hh
    obtain ⟨hle, hnone⟩ := hc.movesToDecide_le ha
    by_contra hne
    cases hnone (by omega)
  rcases hw.settled hread hdecided with ⟨l, settings, octets', peer, hds⟩ | ⟨l, reason, hrej, hr⟩
  · -- Whoever was served had found the key free.
    rw [hds] at ha
    simp [Handler.servedLog, Handler.askedLog, Handler.readLog] at ha
  · cases hrej.of_asked ha
    exact hr

/-! ## §4. One link that found a holder. -/

/-- The entry of a link has left the registry in the course of a run. -/
def HasLeft (T : Transport σ) (w : World σ) (acts : List (Act σ)) (e : Handle) : Prop :=
  ∃ l l', acts = l ++ l' ∧ e ∉ (w.run T l).manager.registry.entries

/-- What is so when a link finds its key taken, and in every run from there. -/
structure Deflected (T : Transport σ) (w : World σ) (n t : Nat) (holder : Handle) : Prop where
  /-- It asks for the very key of the holder, -/
  asks : w.AsksFor n t holder.key
  /-- which the holder has at that moment, -/
  found : w.manager.registry.lookup holder.key = some holder
  /-- and which belongs to the handler of another connection. -/
  owned : w.Owns holder
  other : holder.id ≠ n
  /-- At any time from there on, the holder's signal has fired if and only if
  the holder has left the registry since. -/
  faithful : ∀ acts, holder.id ∈ ((w.act T (.task t)).run T acts).manager.registry.fired ↔
    (w.act T (.task t)).HasLeft T acts holder

/-- A signal tells of its link, and of no other one, in every run. -/
theorem Sound.fired_iff_hasLeft (hw : w.Sound me) {e : Handle}
    (ha : Deed.asked e none ∈ w.deedsOf e.id) (acts : List (Act σ)) :
    e.id ∈ (w.run T acts).manager.registry.fired ↔ w.HasLeft T acts e := by
  have hiff : ∀ l, e.id ∈ (w.run T l).manager.registry.fired ↔
      e ∉ (w.run T l).manager.registry.entries := fun l =>
    (hw.run T l).fired_iff ((deedsOf_run hw l e.id).subset ha)
  constructor
  · intro hf
    exact ⟨acts, [], (List.append_nil _).symm, (hiff acts).mp hf⟩
  · rintro ⟨l, l', rfl, hout⟩
    -- It fired when the link left, and stays fired.
    rw [run_append]
    exact fired_run (hw.run T l) ((hiff l).mpr hout) l'

theorem deflected_of_lookup (hw : w.Sound me) {key : LinkKey} {holder : Handle}
    (ha : w.AsksFor n t key) (hl : w.manager.registry.lookup key = some holder) :
    Deflected T w n t holder := by
  obtain ⟨hin, rfl⟩ := Registry.mem_of_lookup hl
  obtain ⟨hreg, -⟩ := hw.registered_of_lookup hl
  have howns := (hw.owns hin).1
  refine ⟨ha, hl, howns, ?_, ?_⟩
  · -- Whoever comes to ask holds no entry itself.
    rintro rfl
    obtain ⟨h, peer, hh, hn, hphase, -⟩ := ha
    obtain ⟨c, wire, frame, t', h', -, -, -, -, hp, hh', hentry, -⟩ := howns
    have htask := hw.task_of_number hp hh hn
    subst htask
    rw [hh] at hh'
    cases hh'
    simp [Handler.entry?, hphase] at hentry
  · intro acts
    have hc := act_change T hw (.task t)
    have hreg' : Deed.asked holder none ∈ (w.act T (.task t)).deedsOf holder.id :=
      (deedsOf_run hw [.task t] holder.id).subset (mem_deedsOf.mpr hreg)
    exact (hc.sound hw).fired_iff_hasLeft hreg' acts

/-- **The moment at which a duplicate found its holder.** -/
theorem deflected_of_result (hw : w.Sound me) (hnil : w.deeds = []) {acts : List (Act σ)}
    {holder : Handle} (hr : (w.run T acts).result? n = some (.duplicate holder)) :
    ∃ before t after, acts = before ++ .task t :: after ∧
      Deflected T (w.run T before) n t holder := by
  obtain ⟨entry, hasked⟩ := (hw.run T acts).asked_of_duplicate hr
  rcases mem_deeds_run hw (mem_deedsOf.mp hasked) with hold |
    ⟨before, t, after, h, wire, move, rfl, hmoment, hn, hnew⟩
  · rw [hnil] at hold
    cases hold
  · obtain ⟨peer, hphase, rfl, hlookup⟩ := of_mem_asked hnew
    exact ⟨before, t, after, rfl, deflected_of_lookup (hw.run T before)
      ⟨h, peer, hmoment.handler, hn, hphase, rfl⟩ hlookup.symm⟩

/-! ## §5. Many links that ask for one key. -/

/-- A question in the course of a run is on record at its end. -/
theorem AsksWhen.asked {acts : List (Act σ)} {key : LinkKey} {P : World σ → Prop}
    (ha : AsksWhen T w acts n key P) (hw : w.Sound me) :
    ∃ v entry, v.Sound me ∧ P v ∧ entry.key = key ∧
      (∀ k, v.deedsOf k <+: (w.run T acts).deedsOf k) ∧
      Deed.asked entry (v.manager.registry.lookup key) ∈ (w.run T acts).deedsOf n := by
  obtain ⟨before, t, after, rfl, hasks, hP⟩ := ha
  have hv := hw.run T before
  obtain ⟨entry, hkey, hasked⟩ := hasks.asked hv T
  refine ⟨_, entry, hv, hP, hkey, ?_, ?_⟩
  · intro k
    rw [run_append]
    exact deedsOf_run hv _ k
  · rw [run_append]
    exact (deedsOf_run ((act_change T hv (.task t)).sound hv) after n).subset hasked

/-- A cancelled link that had come to ask was cancelled in the run. -/
theorem AsksWhen.results {acts : List (Act σ)} {key : LinkKey} {P : World σ → Prop}
    (ha : AsksWhen T w acts n key P) (hw : w.Sound me) {outcome : Outcome}
    (hr : (w.run T acts).result? n = some outcome ∨ (w.run T acts).result? n = some .cancelled) :
    ∃ t, (w.run T acts).place n = .taken t ∧ (w.run T acts).Results n t acts outcome := by
  obtain ⟨before, t, after, rfl, hasks, -⟩ := ha
  have hv := hw.run T before
  obtain ⟨hp, hnone⟩ := hasks.pending hv
  have hplace := place_run (T := T) hv hp (.task t :: after)
  rw [← run_append] at hplace
  refine ⟨t, hplace, ?_⟩
  rcases hr with hr | hr
  · exact .inl hr
  · refine .inr ⟨hr, ?_⟩
    rw [run_append] at hr
    rcases cancelled_run T hv hp hr with hbefore | hin
    · rw [hnone] at hbefore
      cases hbefore
    · exact List.mem_append_right _ hin

/-- **A registered link is handed over with the next move of its task, if it was
not before.** -/
theorem Sound.kept_of_move (hw : w.Sound me) (T : Transport σ) (hj : w.Joined n)
    (hp : w.place n = .taken t) : (w.act T (.task t)).Kept n := by
  obtain ⟨e, hasked⟩ := hj
  have hc := act_change T hw (.task t)
  have hw' := hc.sound hw
  have hj' : (w.act T (.task t)).Joined n := ⟨e, (deedsOf_run hw [.task t] n).subset hasked⟩
  obtain ⟨octets, hread⟩ := hw.received_of_asked hasked
  have hle : w.movesToDecide t ≤ 1 := by
    unfold movesToDecide
    cases hh : w.handler? t with
    | none => simp
    | some h => exact ((hw.number_of_place hp hh).2.movesToDecide_le hasked).1
  have hstep := movesToDecide_task T hw hp hread
  exact hw'.kept_of_joined hj' (decided_of_movesToDecide (hc.place hw hp) (by omega))

/-- What comes of links that ask for one key, if the first of them is live
whenever another one asks. -/
structure OneOf (T : Transport σ) (w : World σ) (acts : List (Act σ)) (key : LinkKey) (f : Nat)
    (S : Set Nat) : Prop where
  /-- The first one is handed over, by the next move of its task at the
  latest. -/
  first : ∃ t, (w.run T acts).place f = .taken t ∧ (w.run T (acts ++ [.task t])).Kept f
  /-- No other one is handed over, now or later. -/
  others : ∀ n ∈ S, n ≠ f → ∀ later, ¬ (w.run T (acts ++ later)).Kept n
  /-- All others end with the first one's signal, unless they are cancelled
  before their close is over. -/
  signal : ∃ e : Handle, e.id = f ∧ e.key = key ∧ ∀ n ∈ S, n ≠ f →
    ∃ t, (w.run T acts).place n = .taken t ∧ (w.run T acts).Results n t acts (.duplicate e)

/-- **Of the links that ask for a key while the first one is live, the first one
is handed over, and all others end as its duplicates.** -/
theorem oneOf_of_asksWhen (hw : w.Sound me) {acts : List (Act σ)} {key : LinkKey} {f : Nat}
    (hfirst : AsksWhen T w acts f key fun v => v.manager.registry.lookup key = none)
    {S : Set Nat} (hothers : ∀ n ∈ S, n ≠ f → AsksWhen T w acts n key (Live · f)) :
    OneOf T w acts key f S := by
  have hend := hw.run T acts
  obtain ⟨v, e, -, hfree, hkey, -, hjoined⟩ := hfirst.asked hw
  rw [hfree] at hjoined
  -- Each of the others finds the entry of the first one.
  have hfound : ∀ n ∈ S, n ≠ f →
      ∃ entry, Deed.asked entry (some e) ∈ (w.run T acts).deedsOf n := by
    intro n hn hne
    obtain ⟨v', entry, hv', hlive, -, hpre, hasked⟩ := (hothers n hn hne).asked hw
    obtain ⟨e', he', hid⟩ := List.mem_map.mp hlive
    obtain ⟨hlookup, -⟩ := (hv'.owns he').2
    obtain ⟨hreg, -⟩ := hv'.registered_of_lookup hlookup
    have hreg' := (hpre e'.id).subset (mem_deedsOf.mpr hreg)
    rw [hid] at hreg'
    obtain ⟨rfl, -⟩ := hend.asked_once hreg' hjoined
    rw [hkey] at hlookup
    rw [hlookup] at hasked
    exact ⟨entry, hasked⟩
  constructor
  case first =>
      obtain ⟨t, _, _, _, hp, -⟩ := hend.of_mem_deedsOf hjoined
      refine ⟨t, hp, ?_⟩
      rw [run_append]
      exact hend.kept_of_move T ⟨e, hjoined⟩ hp
  case others =>
      intro n hn hne later
      obtain ⟨entry, hasked⟩ := hfound n hn hne
      have hasked' := (deedsOf_run (T := T) hend later n).subset hasked
      rw [run_append]
      exact (hend.run T later).not_kept_of_duplicate ⟨entry, e, hasked', rfl⟩
  case signal =>
      refine ⟨e, hend.id_of_asked hjoined, hkey, ?_⟩
      intro n hn hne
      obtain ⟨entry, hasked⟩ := hfound n hn hne
      exact (hothers n hn hne).results hw (hend.result_of_asked hasked)

/-! ## §6. Runs. -/

/-- **The signal that a duplicate is given is faithful.**  In every run of a
node,

  • whoever has decided to end as a duplicate, whether its own connection is
    still being closed or not, asked for its key at a moment at which the
    named holder had that key; and from there on, the holder's signal has
    fired if and only if the holder has left the registry since, whoever takes
    the key after it;
  • if one link finds a key free, and others ask for the key while this link
    is live, then it alone is handed over, and all others end as its
    duplicates, with its signal, in whatever order they ask. -/
theorem duplicate_signal (T : Transport σ) (me : Identity) (settings : Settings)
    (engine : Engine) (state : σ) :
    let w := start me settings engine state
    (∀ acts n holder, (w.run T acts).result? n = some (.duplicate holder) →
      ∃ before t after, acts = before ++ .task t :: after ∧
        Deflected T (w.run T before) n t holder) ∧
    (∀ acts key f, AsksWhen T w acts f key (fun v => v.manager.registry.lookup key = none) →
      ∀ S : Set Nat, (∀ n ∈ S, n ≠ f → AsksWhen T w acts n key (Live · f)) →
      OneOf T w acts key f S) := by
  intro w
  have hw : w.Sound me := sound_start me settings engine state
  refine ⟨?_, ?_⟩
  · intro acts n holder hr
    exact deflected_of_result hw rfl hr
  · intro acts key f hfirst S hothers
    exact oneOf_of_asksWhen hw hfirst hothers

/-! ## §7. Two connections of one peer. -/

/-- The same peer comes in twice under one label.  The first connection goes as
far as its registration, then the second one does. -/
def comingTwice : List (Act Script) :=
  [.make .tcp "first" "near" "far" 1024 {}, .make .tcp "second" "near" "far" 1024 {},
    .accept 0 false, .accept 1 false,
    .remote 0 (.write (Frame.own (.replicate 0xbb) 3).encode),
    .remote 1 (.write (Frame.own (.replicate 0xbb) 3).encode)] ++
    List.replicate 8 (.task 0) ++ List.replicate 8 (.task 1)

/-- The key that both connections ask for. -/
def sharedKey : LinkKey := ⟨.replicate 0xbb, .tcp, "near", "far"⟩

/-- The first connection finds its key free. -/
theorem asksWhen_first :
    AsksWhen Script.transport scriptedNode comingTwice 0 sharedKey
      (fun v => v.manager.registry.lookup sharedKey = none) := by
  refine ⟨comingTwice.take 13, 0, List.replicate 8 (.task 1), rfl, ⟨_, _, rfl, rfl, rfl, ?_⟩, ?_⟩
  · decide +kernel
  · decide +kernel

/-- The second one asks while the first one is live. -/
theorem asksWhen_second :
    AsksWhen Script.transport scriptedNode comingTwice 1 sharedKey (Live · 0) := by
  refine ⟨comingTwice.take 21, 1, [], rfl, ⟨_, _, rfl, rfl, rfl, ?_⟩, ?_⟩
  · decide +kernel
  · unfold Live
    decide +kernel

/-- What comes of the two connections: the second one is closing as a duplicate
of the first one, which is about to be handed over. -/
theorem duplicate_signal_comingTwice :
    (∃ before t after, comingTwice = before ++ .task t :: after ∧
      Deflected Script.transport (scriptedNode.run Script.transport before) 1 t
        ⟨0, "first", sharedKey, true⟩) ∧
    OneOf Script.transport scriptedNode comingTwice sharedKey 0 {0, 1} := by
  have h := duplicate_signal Script.transport (.replicate 0xaa) {} .collect {}
  constructor
  · exact h.1 comingTwice 1 _ (by decide +kernel)
  · refine h.2 comingTwice sharedKey 0 asksWhen_first {0, 1} ?_
    rintro n (rfl | rfl) hne
    · exact absurd rfl hne
    · exact asksWhen_second

end World

end LinkLayer

/-
  LinkLayer.Proofs.Registry.Precedence
  ────────────────────────────────────
  **FIRST COME, FIRST SERVED.**

  Whoever finds a key taken, finds it taken by a link that was registered
  under it before (`attributed_run`).  Of two links that are the only ones to
  ask for a key (`Rivals`), therefore,

    • the first one to ask is kept,
    • the second one is kept too, unless it finds the first one there, of
      which it is the duplicate then.
-/
import LinkLayer.Proofs.Registry.Ownership
import LinkLayer.Proofs.World.Progress

namespace LinkLayer

/-- A deed is a question for a registration. -/
def Deed.isQuestion : Deed → Bool
  | .asked .. => true
  | _ => false

theorem Deed.isQuestion_iff {d : Deed} :
    d.isQuestion = true ↔ ∃ entry holder, d = .asked entry holder := by
  cases d <;> simp [isQuestion]

namespace World

variable {σ : Type} {T : Transport σ} {me : Identity} {w : World σ}

/-! ## §1. Where the holder of a key comes from. -/

/-- Every holder that somebody found was registered before, under the same
key. -/
def Attributed (deeds : List (Nat × Deed)) : Prop :=
  ∀ pre n entry holder post, deeds = pre ++ (n, .asked entry (some holder)) :: post →
    (holder.id, Deed.asked holder none) ∈ pre ∧ holder.key = entry.key

/-- Who is found in the registry was registered. -/
theorem Sound.registered_of_lookup (hw : w.Sound me) {key : LinkKey} {holder : Handle}
    (hl : w.manager.registry.lookup key = some holder) :
    (holder.id, Deed.asked holder none) ∈ w.deeds ∧ holder.key = key := by
  obtain ⟨hin, hkey⟩ := Registry.mem_of_lookup hl
  obtain ⟨t, h, hh, hentry⟩ := (hw.entries holder).mp hin
  obtain ⟨c, wire, -, -, -, htends⟩ := hw.tends hh
  obtain ⟨hasked, -⟩ := htends.chronicle.asked_of_entry hentry
  refine ⟨?_, hkey⟩
  rw [hw.entry_id hh hentry]
  exact mem_deedsOf.mp hasked

/-- A moment attributes the holder that is found at it. -/
theorem Moment.attributed {w' : World σ} {t : Nat} {h : Handler} {wire : Wire}
    {move : Handler.Move} (hm : Moment w w' t h wire move) (hw : w.Sound me)
    (ha : Attributed w.deeds) : Attributed w'.deeds := by
  intro pre n entry holder post heq
  rw [hm.deeds] at heq
  -- A question of this moment finds who is in the registry now.
  have hnow : (n, Deed.asked entry (some holder)) ∈
      (h.deeds w.manager.toNode move).map (h.number, ·) →
      (holder.id, Deed.asked holder none) ∈ w.deeds ∧ holder.key = entry.key := by
    intro hin
    obtain ⟨d, hd, he⟩ := List.mem_map.mp hin
    cases he
    obtain ⟨peer, hp, -, hlookup⟩ := of_mem_asked hd
    exact hw.registered_of_lookup hlookup.symm
  rcases List.append_eq_append_iff.mp heq with ⟨mid, rfl, hnew⟩ | ⟨mid, hold, hrest⟩
  · obtain ⟨hreg, hkey⟩ := hnow (by rw [hnew]; exact List.mem_append_right _ List.mem_cons_self)
    exact ⟨List.mem_append_left _ hreg, hkey⟩
  · cases mid with
    | nil =>
        rw [List.nil_append] at hrest
        obtain ⟨hreg, hkey⟩ := hnow (by rw [← hrest]; exact List.mem_cons_self)
        rw [hold, List.append_nil] at hreg
        exact ⟨hreg, hkey⟩
    | cons x mid =>
        rw [List.cons_append] at hrest
        cases hrest
        exact ha pre n entry holder mid hold

/-- **Whoever finds a key taken, finds it taken by a link that was registered
under it before.** -/
theorem attributed_run (T : Transport σ) (hw : w.Sound me) (ha : Attributed w.deeds)
    (acts : List (Act σ)) : Attributed (w.run T acts).deeds := by
  refine hw.run_keeps T (p := fun w => Attributed w.deeds) ?_ ha acts
  intro w a hw ha
  rcases (act_change T hw a).deeds_cases with hsame | ⟨t, h, wire, move, -, hmoment⟩
  · rw [hsame]
    exact ha
  · exact hmoment.attributed hw ha

/-! ## §2. Asking, being kept, being a duplicate. -/

/-- The connection of a link was handed over to the engine. -/
def Kept (w : World σ) (n : Nat) : Prop :=
  ∃ peer metric, Deed.handedOver peer metric ∈ w.deedsOf n

/-- A link found another one when it asked for its registration. -/
def DuplicateOf (w : World σ) (n k : Nat) : Prop :=
  ∃ entry holder, Deed.asked entry (some holder) ∈ w.deedsOf n ∧ holder.id = k

/-- A beginning of the record has a question of the first link, and none of
the second. -/
def AsksBefore (w : World σ) (n k : Nat) : Prop :=
  ∃ pre post, w.deeds = pre ++ post ∧ (∃ entry holder, (n, Deed.asked entry holder) ∈ pre) ∧
    ∀ entry holder, (k, Deed.asked entry holder) ∉ pre

/-- Nobody asks twice. -/
theorem Sound.asked_once (hw : w.Sound me) {n : Nat} {entry entry' : Handle}
    {holder holder' : Option Handle} (h : Deed.asked entry holder ∈ w.deedsOf n)
    (h' : Deed.asked entry' holder' ∈ w.deedsOf n) : entry = entry' ∧ holder = holder' := by
  obtain ⟨l, c, -, -, hstory⟩ := hw.story h
  generalize w.deedsOf n = ds at *
  cases hstory with
  | asked => simp_all [Handler.askedLog, Handler.readLog]
  | served => simp_all [Handler.servedLog, Handler.askedLog, Handler.readLog]
  | _ => simp_all [Handler.readLog]

/-- Whoever is kept has a whole life on record. -/
theorem Sound.served_of_kept (hw : w.Sound me) {n : Nat} (h : w.Kept n) :
    ∃ l settings octets frame, w.deedsOf n = Handler.servedLog l n settings octets frame := by
  obtain ⟨peer, metric, hd⟩ := h
  obtain ⟨l, c, -, -, hstory⟩ := hw.story hd
  obtain ⟨settings, octets, frame, -, hds⟩ := hstory.of_handedOver hd
  exact ⟨l, settings, octets, frame, hds⟩

/-- Whoever is kept was registered. -/
theorem Sound.joined_of_kept (hw : w.Sound me) {n : Nat} (h : w.Kept n) : w.Joined n := by
  obtain ⟨l, settings, octets, frame, hds⟩ := hw.served_of_kept h
  rw [Joined, hds]
  exact Handler.registered_servedLog _ _ _ _ _

/-- Whoever is a duplicate is not kept. -/
theorem Sound.not_kept_of_duplicate (hw : w.Sound me) {n k : Nat} (h : w.DuplicateOf n k) :
    ¬ w.Kept n := by
  intro hkept
  obtain ⟨entry, holder, hasked, -⟩ := h
  obtain ⟨entry', hasked'⟩ := hw.joined_of_kept hkept
  obtain ⟨-, hsame⟩ := hw.asked_once hasked hasked'
  cases hsame

/-- Whoever has asked had a frame before it. -/
theorem Sound.received_of_asked (hw : w.Sound me) {n : Nat} {entry : Handle}
    {holder : Option Handle} (ha : Deed.asked entry holder ∈ w.deedsOf n) :
    ∃ octets, Deed.received octets ∈ w.deedsOf n := by
  obtain ⟨l, c, -, -, hstory⟩ := hw.story ha
  obtain ⟨settings, octets, peer, -, -, hpre⟩ := hstory.of_asked ha
  exact ⟨octets, hpre.subset (by simp [Handler.askedLog, Handler.readLog])⟩

/-- Whoever was registered is kept, once its handler has decided. -/
theorem Sound.kept_of_joined (hw : w.Sound me) {n : Nat} (h : w.Joined n)
    (hdecided : w.Decided n) : w.Kept n := by
  obtain ⟨e, hasked⟩ := h
  obtain ⟨octets, hr⟩ := hw.received_of_asked hasked
  rcases hw.settled hr hdecided with ⟨l, settings, octets', peer, hds⟩ | ⟨l, reason, hrej, -⟩
  · rw [Kept, hds]
    exact ⟨_, _, List.mem_append_right _ (List.mem_singleton_self _)⟩
  · exact absurd ⟨e, hasked⟩ hrej.not_registered

/-! ## §3. Two that ask for one key. -/

/-- Two links ask for a key, and nobody else does. -/
structure Rivals (w : World σ) (key : LinkKey) (n k : Nat) : Prop where
  ne : n ≠ k
  left : ∃ entry holder, Deed.asked entry holder ∈ w.deedsOf n ∧ entry.key = key
  right : ∃ entry holder, Deed.asked entry holder ∈ w.deedsOf k ∧ entry.key = key
  only : ∀ i entry holder, Deed.asked entry holder ∈ w.deedsOf i → entry.key = key →
    i = n ∨ i = k

namespace Rivals

variable {key : LinkKey} {n k : Nat}

theorem symm (h : Rivals w key n k) : Rivals w key k n :=
  ⟨h.ne.symm, h.right, h.left, fun i entry holder ha hk => (h.only i entry holder ha hk).symm⟩

/-- A rival that finds somebody finds the other rival. -/
theorem duplicate_or_joined (h : Rivals w key n k) (hw : w.Sound me)
    (ha : Attributed w.deeds) : w.Joined n ∨ w.DuplicateOf n k ∧ w.Joined k := by
  obtain ⟨entry, holder, hasked, hkey⟩ := h.left
  cases holder with
  | none => exact .inl ⟨entry, hasked⟩
  | some holder =>
      obtain ⟨pre, post, hsplit⟩ := List.append_of_mem (mem_deedsOf.mp hasked)
      obtain ⟨hreg, hsame⟩ := ha pre n entry holder post hsplit
      have hreg' : Deed.asked holder none ∈ w.deedsOf holder.id := by
        rw [mem_deedsOf, hsplit]
        exact List.mem_append_left _ hreg
      rcases h.only holder.id holder none hreg' (hsame.trans hkey) with hn | hk
      · obtain ⟨-, hnone⟩ := hw.asked_once hasked (hn ▸ hreg')
        cases hnone
      · exact .inr ⟨⟨entry, holder, hasked, hk⟩, holder, hk ▸ hreg'⟩

/-- One of the two asks first. -/
theorem order (h : Rivals w key n k) : w.AsksBefore n k ∨ w.AsksBefore k n := by
  obtain ⟨entry, holder, hasked, -⟩ := h.left
  -- Look for the first question of either.
  have hfound :
      (w.deeds.find? fun d => decide (d.1 = n ∨ d.1 = k) && d.2.isQuestion).isSome = true := by
    rw [List.find?_isSome]
    exact ⟨_, mem_deedsOf.mp hasked, by simp [Deed.isQuestion]⟩
  obtain ⟨⟨i, d⟩, hfirst⟩ := Option.isSome_iff_exists.mp hfound
  obtain ⟨hd, pre, post, hsplit, hpre⟩ := List.find?_eq_some_iff_append.mp hfirst
  simp only [Bool.and_eq_true, decide_eq_true_eq] at hd
  obtain ⟨hi, hd⟩ := hd
  have hnone : ∀ j entry' holder', (j = n ∨ j = k) →
      (j, Deed.asked entry' holder') ∉ pre := by
    intro j entry' holder' hj hin
    have hnot := hpre _ hin
    simp [hj, Deed.isQuestion] at hnot
  obtain ⟨entry', holder', rfl⟩ := Deed.isQuestion_iff.mp hd
  have hin : (i, Deed.asked entry' holder') ∈ pre ++ [(i, Deed.asked entry' holder')] :=
    List.mem_append_right _ (List.mem_singleton_self _)
  have hpre' : ∀ j, (j = n ∨ j = k) → j ≠ i → ∀ e o,
      (j, Deed.asked e o) ∉ pre ++ [(i, Deed.asked entry' holder')] := by
    intro j hj hne e o hmem
    rcases List.mem_append.mp hmem with hmem | hmem
    · exact hnone j e o hj hmem
    · rw [List.mem_singleton] at hmem
      exact hne (congrArg Prod.fst hmem)
  have hsplit' : w.deeds = (pre ++ [(i, Deed.asked entry' holder')]) ++ post := by
    rw [hsplit, List.append_assoc]
    rfl
  rcases hi with rfl | rfl
  · exact .inl ⟨_, post, hsplit', ⟨entry', holder', hin⟩, hpre' k (.inr rfl) h.ne.symm⟩
  · exact .inr ⟨_, post, hsplit', ⟨entry', holder', hin⟩, hpre' n (.inl rfl) h.ne⟩

/-- Whoever asks first does not find the other. -/
theorem not_duplicate (hb : w.AsksBefore n k) (hw : w.Sound me) (ha : Attributed w.deeds) :
    ¬ w.DuplicateOf n k := by
  rintro ⟨entry, holder, hasked, rfl⟩
  obtain ⟨pre, post, hsplit, ⟨entry', holder', hin⟩, hnone⟩ := hb
  have hin' : Deed.asked entry' holder' ∈ w.deedsOf n := by
    rw [mem_deedsOf, hsplit]
    exact List.mem_append_left _ hin
  obtain ⟨rfl, rfl⟩ := hw.asked_once hasked hin'
  obtain ⟨pre', post', rfl⟩ := List.append_of_mem hin
  obtain ⟨hreg, -⟩ := ha pre' n entry holder (post' ++ post) (by rw [hsplit]; simp)
  exact hnone holder none (List.mem_append_left _ hreg)

/-- **The first one to ask is kept.** -/
theorem first_kept (h : Rivals w key n k) (hw : w.Sound me) (ha : Attributed w.deeds)
    (hdecided : w.Decided n) (hb : w.AsksBefore n k) : w.Kept n := by
  rcases h.duplicate_or_joined hw ha with hj | ⟨hd, -⟩
  · exact hw.kept_of_joined hj hdecided
  · exact absurd hd (not_duplicate hb hw ha)

/-- **The other one is kept if it does not find the first one there.** -/
theorem second_kept (h : Rivals w key n k) (hw : w.Sound me) (ha : Attributed w.deeds)
    (hdecided : w.Decided k) : w.Kept k ↔ ¬ w.DuplicateOf k n := by
  constructor
  · intro hkept hd
    exact hw.not_kept_of_duplicate hd hkept
  · intro hd
    rcases h.symm.duplicate_or_joined hw ha with hj | ⟨hd', -⟩
    · exact hw.kept_of_joined hj hdecided
    · exact absurd hd' hd

end Rivals

end World

end LinkLayer

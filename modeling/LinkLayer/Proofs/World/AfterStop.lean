/-
  LinkLayer.Proofs.World.AfterStop
  ────────────────────────────────
  **WHAT A STOP DOES TO LINKS THAT ARE ON THEIR WAY.**

  A handler looks at the stop once, when it begins.  So the moment of the
  stop divides the links of a node:

    • whoever has not begun by then is never registered nor handed over, and
      ends as stopped unless it is cancelled,
    • whoever has begun goes on as if there were no stop, up to the
      registration and the hand-over.

  `links_after_stop` is this for all runs; `link_up_after_stop` is a run in
  which a link does come up after the stop.
-/
import LinkLayer.Proofs.World.Progress

namespace LinkLayer

/-! ## §1. Deeds and their order. -/

/-- A deed that brings a link up: a registration, or a hand-over. -/
def Deed.bringsUp : Deed → Bool
  | .asked _ none | .handedOver .. => true
  | _ => false

namespace Handler

variable {l : Link} {n : Nat} {ds : List Deed} {outcome : Outcome}

/-- Whoever has done anything has begun. -/
theorem Story.began (h : Story l n ds) (hne : ds ≠ []) :
    ∃ settings, Deed.began l settings ∈ ds := by
  cases h with
  | blank => exact absurd rfl hne
  | @begun settings => exact ⟨settings, by simp⟩
  | @read settings => exact ⟨settings, by simp [readLog]⟩
  | @asked settings => exact ⟨settings, by simp [askedLog, readLog]⟩
  | @served settings => exact ⟨settings, by simp [servedLog, askedLog, readLog]⟩

/-- Whoever has ended without a deed was refused for the stop, or was
cancelled. -/
theorem Over.of_nil (h : Over l n [] outcome) :
    outcome = .failed .stopped ∨ outcome = .cancelled := by
  generalize hds : ([] : List Deed) = ds at h
  cases h with
  | rejected hr =>
      cases hr with
      | stopped => exact .inl rfl
      | broken => cases hds
      | turnedAway => cases hds
      | duplicate => cases hds
  | served => cases hds
  | collapsed => cases hds
  | cancelled => exact .inr rfl

/-- **Whoever has begun does not look at the stop again.** -/
theorem step_isStopped {h : Handler} (hp : h.phase ≠ .fresh) (node : Node) (wire : Wire)
    (isStopped : Bool) : h.step { node with isStopped } wire = h.step node wire := by
  unfold step
  cases hphase : h.phase with
  | fresh => exact absurd hphase hp
  | _ => rfl

end Handler

namespace World

variable {σ : Type} {T : Transport σ} {me : Identity} {w : World σ}

/-- The handler of a connection has begun: it was not stopped at its start. -/
def HasBegun (w : World σ) (n : Nat) : Prop :=
  ∃ l settings, Deed.began l settings ∈ w.deedsOf n

/-- What has an outcome is over, with a record that fits. -/
theorem Sound.over_of_outcome (hw : w.Sound me) {n : Nat} {outcome : Outcome}
    (ho : w.outcome? n = some outcome) :
    ∃ l c, w.connection n = some c ∧ l.Labelled c ∧
      Handler.Over l n (w.deedsOf n) outcome :=
  hw.over_of_result (result_of_outcome ho)

/-! ## §2. Runs after a stop. -/

/-- Nobody begins on a node that is stopped. -/
theorem began_before_stop (hw : w.Sound me) (hs : w.manager.isStopped = true)
    {acts : List (Act σ)} {n : Nat} (hb : (w.run T acts).HasBegun n) : w.HasBegun n := by
  obtain ⟨l, settings, hd⟩ := hb
  rcases mem_deeds_run hw (mem_deedsOf.mp hd) with hold |
    ⟨l', t, l'', h, wire, move, -, -, -, hnew⟩
  · exact ⟨l, settings, mem_deedsOf.mpr hold⟩
  · -- The moment would be one after the stop.
    have hstill := isStopped_run (T := T) hw hs l'
    obtain ⟨-, hnot, -⟩ := of_mem_began hnew
    rw [hstill] at hnot
    cases hnot

/-- What is on record goes back to a beginning. -/
theorem Sound.hasBegun (hw : w.Sound me) {n : Nat} {d : Deed} (hd : d ∈ w.deedsOf n) :
    w.HasBegun n := by
  obtain ⟨l, c, -, -, hstory⟩ := hw.story hd
  obtain ⟨settings, hb⟩ := hstory.began (List.ne_nil_of_mem hd)
  exact ⟨l, settings, hb⟩

/-- **Once a node is stopped, no link comes up but those whose handlers had
begun before.**  Take any run up to a time at which the node is stopped, and
any run from there.  The node stays stopped, and

  • whoever is registered or handed over at all had begun before that time,
  • whoever had not begun by then does nothing, and ends as stopped or by a
    cancellation,
  • whoever had begun moves as it would on a node that is not stopped. -/
theorem links_after_stop (T : Transport σ) (me : Identity) (settings : Settings)
    (engine : Engine) (state : σ) (before after : List (Act σ))
    (hs : ((start me settings engine state).run T before).manager.isStopped = true) :
    let w₀ := (start me settings engine state).run T before
    let w₁ := w₀.run T after
    w₁.manager.isStopped = true ∧
    (∀ n d, d ∈ w₁.deedsOf n → d.bringsUp = true → w₀.HasBegun n) ∧
    (∀ n, ¬ w₀.HasBegun n → w₁.deedsOf n = [] ∧
      ∀ outcome, w₁.outcome? n = some outcome →
        outcome = .failed .stopped ∨ outcome = .cancelled) ∧
    (∀ t h wire, w₁.handler? t = some h → h.phase ≠ .fresh →
      h.step w₁.manager.toNode wire =
        h.step { w₁.manager.toNode with isStopped := false } wire) := by
  intro w₀ w₁
  have hw₀ : w₀.Sound me := sound_run T me settings engine state before
  have hw₁ : w₁.Sound me := hw₀.run T after
  -- Everything goes back to this: a beginning on record is one before the stop.
  refine ⟨isStopped_run hw₀ hs after, ?_, ?_, ?_⟩
  · intro n d hd _
    exact began_before_stop hw₀ hs (hw₁.hasBegun hd)
  · intro n hn
    have hnil : w₁.deedsOf n = [] := by
      by_contra hne
      obtain ⟨d, hd⟩ := List.exists_mem_of_ne_nil _ hne
      exact hn (began_before_stop hw₀ hs (hw₁.hasBegun hd))
    refine ⟨hnil, ?_⟩
    intro outcome ho
    obtain ⟨l, c, -, -, hover⟩ := hw₁.over_of_outcome ho
    rw [hnil] at hover
    exact hover.of_nil
  · intro t h wire hh hp
    exact (Handler.step_isStopped hp _ wire false).symm

/-! ## §3. A link that comes up after the stop. -/

/-- What the handler did up to the stop, and after it. -/
theorem deedsOf_answer :
    (scriptedNode.run Script.transport (acceptAndSend ++ [.stop])).manager.isStopped = true ∧
    (scriptedNode.run Script.transport (acceptAndSend ++ [.stop])).deedsOf 0 =
      [.began ⟨"peer", .tcp, "near", "far", true, false, {}⟩ {}] ∧
    Deed.handedOver (.replicate 0xbb) 3 ∈
      (scriptedNode.run Script.transport (acceptAndSend ++ [.stop] ++ answer)).deedsOf 0 := by
  decide +kernel

/-- **It is not so that after a stop no link comes up**: the handler of
`acceptAndSend` has sent its frame when the node is stopped, and is registered
and handed over after that. -/
theorem link_up_after_stop :
    ¬ ∀ before after : List (Act Script),
      (scriptedNode.run Script.transport before).manager.isStopped = true →
      ∀ n d, d ∈ (scriptedNode.run Script.transport (before ++ after)).deedsOf n →
        d.bringsUp = true → d ∈ (scriptedNode.run Script.transport before).deedsOf n := by
  intro h
  obtain ⟨hs, hbefore, hafter⟩ := deedsOf_answer
  have hup := h _ _ hs _ _ hafter rfl
  rw [hbefore] at hup
  simp at hup

/-- The same run, with what does hold of it: the handler had begun before. -/
theorem links_after_stop_answer :
    (scriptedNode.run Script.transport (acceptAndSend ++ [.stop])).manager.isStopped = true ∧
    (scriptedNode.run Script.transport (acceptAndSend ++ [.stop])).HasBegun 0 := by
  obtain ⟨hs, -, hafter⟩ := deedsOf_answer
  rw [run_append] at hafter
  unfold scriptedNode at *
  have h := links_after_stop Script.transport (.replicate 0xaa) {} .collect {}
    (acceptAndSend ++ [.stop]) answer
  obtain ⟨-, hbegun, -⟩ := h hs
  exact ⟨hs, hbegun 0 _ hafter rfl⟩

end World

end LinkLayer

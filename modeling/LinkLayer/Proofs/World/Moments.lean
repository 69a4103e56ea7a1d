/-
  LinkLayer.Proofs.World.Moments
  ──────────────────────────────
  **MOMENTS OF A RUN, AND WHAT LASTS.**

  `Becomes` and `Since` say when something was brought about in a run:

    • what holds in the end, and did not at first, was brought about,
    • what is brought about of a handler is brought about by its turn,
    • whoever has begun made a first move.

  `Lasting` is the induction over the acts: what turns and the remote end keep
  of a handler and its wire holds throughout the run, if the clock keeps it.
-/
import LinkLayer.Proofs.World.Dealing
import LinkLayer.Proofs.World.Progress
import LinkLayer.Proofs.World.Settled

namespace LinkLayer

namespace World

variable {σ : Type} {T : Transport σ} {me : Identity} {w : World σ} {a : Act σ}
  {acts after : List (Act σ)} {n t : Nat}

/-! ## §1. Moments of a run. -/

/-- After the acts `l` of a run, the next one brings about what did not hold
before it. -/
def Becomes (T : Transport σ) (w : World σ) (acts : List (Act σ)) (p : World σ → Prop)
    (l : List (Act σ)) : Prop :=
  ∃ a l', acts = l ++ a :: l' ∧ ¬ p (w.run T l) ∧ p (w.run T (l ++ [a]))

/-- It was brought about at a time. -/
def Since (T : Transport σ) (w : World σ) (acts : List (Act σ)) (p : World σ → Prop)
    (time : Nat) : Prop :=
  ∃ l, Becomes T w acts p l ∧ (w.run T l).manager.now = time

/-- The handler of a task is in a part of its life. -/
def During (p : Handler → Bool) (t : Nat) (w : World σ) : Prop :=
  ∃ h, w.handler? t = some h ∧ p h = true

/-- Whatever holds in the end, and did not hold at first, was brought about. -/
theorem exists_becomes {p : World σ → Prop} (hn : ¬ p w) (hp : p (w.run T acts)) :
    ∃ l, Becomes T w acts p l := by
  induction acts generalizing w with
  | nil => exact absurd hp hn
  | cons a rest ih =>
      by_cases ha : p (w.act T a)
      · exact ⟨[], a, rest, rfl, hn, ha⟩
      · obtain ⟨l, b, l', rfl, hb, hb'⟩ := ih ha hp
        exact ⟨a :: l, b, l', rfl, hb, hb'⟩

/-- **What is brought about of a handler is brought about by its turn.** -/
theorem Becomes.turn (hw : w.Sound me) (hp : w.place n = .taken t) {p : Handler → Bool}
    {l : List (Act σ)} (hb : Becomes T w acts (During p t) l) :
    ∃ a l' h wire move, acts = l ++ a :: l' ∧ (w.run T l).handler? t = some h ∧ p h = false ∧
      Brings (w.run T l).manager.toNode wire h t a move ∧
      h.Turn (w.run T l).manager.toNode wire move ∧ p move.handler = true ∧
      (w.run T (l ++ [a])).handler? t = some move.handler := by
  obtain ⟨a, l', hacts, hnot, h', hh', hph'⟩ := hb
  have hact : (w.run T (l ++ [a])) = (w.run T l).act T a := run_append T w l [a]
  rw [hact] at hh'
  rcases handler?_act T (hw.run T l) (place_run hw hp l) a hh' with
    hsame | ⟨h, wire, move, hh, hb, hturn, rfl⟩
  · exact absurd ⟨h', hsame, hph'⟩ hnot
  · have hph : p h = false := by
      by_contra htrue
      exact hnot ⟨h, hh, by simpa using htrue⟩
    exact ⟨a, l', h, wire, move, hacts, hh, hph, hb, hturn, hph', hact ▸ hh'⟩

/-- **Whoever has begun made a first move**, and did nothing before it. -/
theorem exists_first_move (T : Transport σ) (hw : w.Sound me) {h : Handler}
    (hn : ∀ s, w.place h.number ≠ .taken s) (hh : (w.run T acts).handler? t = some h)
    (hf : h.phase ≠ .fresh) :
    ∃ before after h₀, acts = before ++ .task t :: after ∧
      (w.run T before).handler? t = some h₀ ∧ h₀.number = h.number ∧ h₀.phase = .fresh := by
  have hp := (hw.run T acts).holders t h hh
  obtain ⟨before, a, after, h₁, rfl, -, hh₁, hn₁, hf₁⟩ := taken_run T hw hn hp
  rw [List.append_cons, run_append] at hh
  -- From the moment at which the task got the connection, to the first move.
  have hw₁ := hw.run T (before ++ [a])
  have hp₁ := hn₁ ▸ hw₁.holders t h₁ hh₁
  have hnot : ¬ During (fun h => h.part != 0) t (w.run T (before ++ [a])) := by
    rintro ⟨h', hh', hp'⟩
    cases hh₁.symm.trans hh'
    simp [Handler.part_eq_zero.mpr hf₁] at hp'
  have hbegun : During (fun h => h.part != 0) t ((w.run T (before ++ [a])).run T after) :=
    ⟨h, hh, bne_iff_ne.mpr (mt Handler.part_eq_zero.mp hf)⟩
  obtain ⟨l, hb⟩ := exists_becomes hnot hbegun
  obtain ⟨b, l', h₂, wire, move, rfl, hh₂, hp₂, hbrings, -⟩ := hb.turn hw₁ hp₁
  have hfresh : h₂.phase = .fresh := Handler.part_eq_zero.mp (by simpa using hp₂)
  have hnum := ((hw₁.run T l).number_of_place (place_run hw₁ hp₁ l) hh₂).1
  rw [← run_append] at hh₂
  cases hbrings with
  | task => exact ⟨before ++ [a] ++ l, l', h₂, by simp, hh₂, hnum, hfresh⟩
  | tunnel hphase =>
      rw [hfresh] at hphase
      cases hphase

/-! ## §2. What lasts. -/

/-- Turns and the remote end keep something of the time, a handler and its
wire. -/
structure Lasting (P : Nat → Handler → Wire → Prop) : Prop where
  turn : ∀ {node : Node} {wire : Wire} {h : Handler} {move : Handler.Move},
    P node.now h wire → h.Turn node wire move → P node.now move.handler move.wire
  remote : ∀ {now : Nat} {h : Handler} {wire : Wire} (what : RemoteAct),
    P now h wire → P now h (what.apply wire)

/-- It holds of a task that has a connection. -/
def Holds (P : Nat → Handler → Wire → Prop) (n t : Nat) (w : World σ) : Prop :=
  ∀ h wire, w.handler? t = some h → w.wire? n = some wire → P w.manager.now h wire

/-- The clock keeps it too. -/
def Ticks (P : Nat → Handler → Wire → Prop) (t now : Nat) (w : World σ) : Prop :=
  ∀ h wire, w.handler? t = some h → P w.manager.now h wire →
    P (max w.manager.now now) h wire

variable {P : Nat → Handler → Wire → Prop}

theorem Lasting.act (hP : Lasting P) (T : Transport σ) (hw : w.Sound me)
    (hp : w.place n = .taken t) (hc : ∀ now, a = .clock now → w.Ticks P t now)
    (h : w.Holds P n t) : (w.act T a).Holds P n t := by
  intro h' wire' hh' hwire'
  by_cases hclock : ∃ now, a = .clock now
  · obtain ⟨now, rfl⟩ := hclock
    exact hc now rfl h' wire' hh' (h h' wire' hh' hwire')
  · rw [now_act T hw (not_exists.mp hclock)]
    -- All other acts leave the clock alone, and do to the handler what they can.
    have hdeals := act_deals T hw hp a
    generalize w.act T a = w' at hdeals hh' hwire'
    cases hdeals with
    | aside ha htask hwire hds =>
        refine h h' wire' ?_ (hwire ▸ hwire')
        unfold handler? at hh' ⊢
        rwa [htask] at hh'
    | remote what =>
        rw [wire?_onWire, if_pos rfl] at hwire'
        obtain ⟨wire, hwire, rfl⟩ := Option.map_eq_some_iff.mp hwire'
        exact hP.remote what (h h' wire hh' hwire)
    | rest => exact h h' wire' hh' hwire'
    | done => exact h h' wire' hh' hwire'
    | @move _ origin h₀ wire move hf hn hwire hb =>
        have hh : w.handler? t = some h₀ := handler?_of_find? hf
        obtain ⟨_, _, -, -, -, htends⟩ := hw.tends hh
        have hself := (handler?_put w.manager.tasks t t ⟨origin, .handling move.handler⟩).trans
          (if_pos rfl)
        cases hself.symm.trans hh'
        cases (Table.find?_put_self w.manager.wires n move.wire).symm.trans hwire'
        exact hP.turn (h h₀ wire hh hwire) (hb.turn htends.staged)
    | conclude => cases (handler?_conclude _ w t _ _).symm.trans hh'
    | cancel => cases (handler?_conclude _ w t _ _).symm.trans hh'

/-- **What lasts holds throughout a run.** -/
theorem Lasting.run (hP : Lasting P) (T : Transport σ) (hw : w.Sound me)
    (hp : w.place n = .taken t)
    (hc : ∀ l now l', acts = l ++ .clock now :: l' → (w.run T l).Ticks P t now)
    (h : w.Holds P n t) : (w.run T acts).Holds P n t := by
  induction acts generalizing w with
  | nil => exact h
  | cons a rest ih =>
      have hchange := act_change T hw a
      refine ih (hchange.sound hw) (hchange.place hw hp) ?_ (hP.act T hw hp ?_ h)
      · intro l now l' hl
        exact hc (a :: l) now l' (congrArg (a :: ·) hl)
      · rintro now rfl
        exact hc [] now rest rfl

/-- **What every turn keeps of a handler holds of it at any later time.** -/
theorem handler_run {P : Handler → Prop}
    (hP : ∀ {node : Node} {wire : Wire} {h : Handler} {move : Handler.Move},
      P h → h.Turn node wire move → P move.handler)
    (hw : w.Sound me) {h h' : Handler} (hh : w.handler? t = some h) (h₀ : P h)
    (hh' : (w.run T acts).handler? t = some h') : P h' := by
  have hlasting : Lasting fun _ h' _ => P h' := ⟨hP, fun _ hl => hl⟩
  have hp := hw.holders t h hh
  obtain ⟨_, wire, _, -, hwire, -⟩ := (hw.run T acts).attended _ _ (place_run hw hp acts)
  refine hlasting.run T hw hp (fun _ _ _ _ _ _ _ hl => hl) ?_ h' wire hh' hwire
  intro _ _ hh₁ _
  cases hh.symm.trans hh₁
  exact h₀

/-- **A handler at a later time.** -/
theorem later_run (hw : w.Sound me) {h h' : Handler} (hh : w.handler? t = some h)
    (hh' : (w.run T acts).handler? t = some h') : h.Later h' :=
  handler_run (fun hl ht => hl.trans ht.later) hw hh (.refl h) hh'

/-- A handler runs the same link all the time. -/
theorem link_run (hw : w.Sound me) {h h' : Handler} (hh : w.handler? t = some h)
    (hh' : (w.run T acts).handler? t = some h') : h'.link = h.link :=
  handler_run (fun hl ht => ht.link.1.trans hl) hw hh rfl hh'

end World

end LinkLayer

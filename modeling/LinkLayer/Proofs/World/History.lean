/-
  LinkLayer.Proofs.World.History
  ──────────────────────────────
  **THE RECORD OF A RUN.**

  A record only grows, and whatever is on it was put there at one moment of
  the run, by one move of one task.

    • `mem_deeds_run` — the moment of a deed,
    • `act_task` — and, the other way round, what a task's move puts on
      record,
    • `place_run`, `isStopped_run` — what never changes back: a task keeps its
      connection, and a node stays stopped.
-/
import LinkLayer.Proofs.World.Preservation

namespace LinkLayer.World

variable {σ : Type} {T : Transport σ} {me : Identity} {w w' : World σ} {a : Act σ}

/-! ## §1. Single acts. -/

/-- What a tunnel does is not put on record. -/
theorem deeds_of_tunnelling {node : Node} {wire : Wire} {h : Handler} {move : Handler.Move}
    {entry : Handle} {session : Engine.Session} (ht : h.Turn node wire move)
    (hp : h.phase = .tunnelling entry session) : h.deeds node move = [] := by
  simp only [Handler.deeds, hp]
  cases ht with
  | carryOn => rfl
  | «return» => exact Handler.handOvers_notices _
  | collapse => exact Handler.handOvers_release _ _
  | giveUp hg =>
      rw [hp] at hg
      cases hg
  | _ => simp_all

/-- The move of a task's handler, and what is put on record with it. -/
structure Moment (w w' : World σ) (t : Nat) (h : Handler) (wire : Wire)
    (move : Handler.Move) : Prop where
  handler : w.handler? t = some h
  found : w.wire? h.number = some wire
  turn : h.Turn w.manager.toNode wire move
  next : w'.handler? t = some move.handler
  deeds : w'.deeds = w.deeds ++ (h.deeds w.manager.toNode move).map (h.number, ·)

/-- An act puts nothing on record, or the deeds of one task's move. -/
theorem Change.deeds_cases (hc : Change w a w') :
    w'.deeds = w.deeds ∨ ∃ t h wire move, a = .task t ∧ Moment w w' t h wire move := by
  cases hc with
  | @move _ t origin h wire move hmoves ht hwire hturn =>
      rcases hmoves with rfl | ⟨-, entry, session, hp⟩
      · refine .inr ⟨t, h, wire, move, rfl, handler?_of_find? ht, hwire, hturn, ?_, rfl⟩
        exact (handler?_put _ _ _ _).trans (if_pos rfl)
      · rw [deeds_of_tunnelling hturn hp, List.map_nil, List.append_nil]
        exact .inl rfl
  | _ => exact .inl rfl

/-- A task keeps the connection that it has. -/
theorem Change.place (hc : Change w a w') (hw : w.Sound me) {n t : Nat}
    (hp : w.place n = .taken t) : w'.place n = .taken t := by
  have hgive : ∀ {k : Nat} {place : Place}, (∀ s, w.place k ≠ .taken s) →
      Function.update w.place k place n = .taken t := by
    intro k place hk
    have hne : n ≠ k := by
      rintro rfl
      exact hk t hp
    rw [Function.update_of_ne hne, hp]
  cases hc with
  | make =>
      refine hgive ?_
      intro s hs
      rw [(hw.fresh w.next (Nat.le_refl _)).2] at hs
      cases hs
  | discard hl => exact hgive (by simp [hl])
  | enqueue hl => exact hgive (by simp [hl])
  | take hl => exact hgive (by simp [hl])
  | pop _ hj hq =>
      have hl := (hw.queued _ _ hj _ (by rw [hq]; exact List.mem_cons_self)).2
      exact hgive (by simp [hl])
  | _ => exact hp

/-- A node that is stopped stays stopped. -/
theorem Change.isStopped (hc : Change w a w') (hs : w.manager.isStopped = true) :
    w'.manager.isStopped = true := by
  cases hc with
  | keep hm => exact hm.stopped hs
  | take hl hc ht hlt hnone hm => exact hm.isStopped.trans hs
  | idle hi ht hm => exact hm.isStopped.trans hs
  | _ => exact hs

/-- The world after the move of a task's handler. -/
theorem act_task_eq (T : Transport σ) {t : Nat} {origin : Origin} {h : Handler} {wire : Wire}
    {move : Handler.Move} (ht : w.manager.tasks.find? t = some ⟨origin, .handling h⟩)
    (hwire : w.wire? h.number = some wire) (ho : h.outcome? = none)
    (hmove : h.step w.manager.toNode wire = some move) :
    w.act T (.task t) =
      { w with
        manager := w.manager.applyMove t origin h.number move
        deeds := w.deeds ++ (h.deeds w.manager.toNode move).map (h.number, ·) } := by
  have hh : w.handler? t = some h := handler?_of_find? ht
  -- The scheduler finds the handler in its task and makes its next move.
  have hstep : w.manager.stepTask T t =
      some (w.manager.applyMove t origin h.number move) := by
    simp only [Manager.stepTask, ht, Manager.stepHandler, ho]
    rw [show w.manager.wires.find? h.number = some wire from hwire]
    simp only [hmove, Option.map_some]
  have hdial : w.dialled? T t = none := by simp [dialled?, ht]
  have hdeeds : w.newDeeds t = (h.deeds w.manager.toNode move).map (h.number, ·) := by
    simp [newDeeds, hh, hwire, hmove]
  show w.taskMove T t = _
  simp only [taskMove, hstep, hdial, hdeeds]

/-- **The move of a task's handler, as an act.** -/
theorem act_task (T : Transport σ) (hw : w.Sound me) {t : Nat} {h : Handler} {wire : Wire}
    {move : Handler.Move} (hh : w.handler? t = some h) (hwire : w.wire? h.number = some wire)
    (hmove : h.step w.manager.toNode wire = some move) :
    Moment w (w.act T (.task t)) t h wire move := by
  obtain ⟨_, wire', -, hwire', -, htends⟩ := hw.tends hh
  have hturn := Handler.step_turn htends.staged hmove
  obtain ⟨origin, ht⟩ := find?_of_handler? hh
  rw [act_task_eq T ht hwire hturn.outcome_none hmove]
  exact ⟨hh, hwire, hturn, (handler?_put _ _ _ _).trans (if_pos rfl), rfl⟩

/-! ## §2. Runs. -/

theorem place_run (hw : w.Sound me) {n t : Nat} (hp : w.place n = .taken t)
    (acts : List (Act σ)) : (w.run T acts).place n = .taken t :=
  hw.run_keeps T (p := fun w => w.place n = .taken t)
    (fun hw hp => (act_change T hw _).place hw hp) hp acts

theorem isStopped_run (hw : w.Sound me) (hs : w.manager.isStopped = true)
    (acts : List (Act σ)) : (w.run T acts).manager.isStopped = true :=
  hw.run_keeps T (p := fun w => w.manager.isStopped = true)
    (fun hw hs => (act_change T hw _).isStopped hs) hs acts

/-- A record only grows. -/
theorem deeds_run (hw : w.Sound me) (acts : List (Act σ)) :
    w.deeds <+: (w.run T acts).deeds := by
  refine hw.run_keeps T (p := fun w' => w.deeds <+: w'.deeds) ?_ List.prefix_rfl acts
  intro w' a hw' hle
  rcases (act_change T hw' a).deeds_cases with hsame | ⟨t, h, wire, move, -, hmoment⟩
  · exact hsame ▸ hle
  · rw [hmoment.deeds]
    exact hle.trans (List.prefix_append _ _)

theorem deedsOf_run (hw : w.Sound me) (acts : List (Act σ)) (n : Nat) :
    w.deedsOf n <+: (w.run T acts).deedsOf n :=
  (deeds_run hw acts).filterMap _

theorem mem_deedsOf {n : Nat} {d : Deed} : d ∈ w.deedsOf n ↔ (n, d) ∈ w.deeds := by
  unfold deedsOf
  rw [List.mem_filterMap]
  constructor
  · rintro ⟨⟨k, d'⟩, hm, hd⟩
    dsimp only at hd
    split at hd
    · next hk =>
        cases hd
        exact hk ▸ hm
    · cases hd
  · intro hm
    exact ⟨(n, d), hm, if_pos rfl⟩

/-- **Whatever is on record was put there at one moment of the run.** -/
theorem mem_deeds_run (hw : w.Sound me) {acts : List (Act σ)} {n : Nat} {d : Deed}
    (hd : (n, d) ∈ (w.run T acts).deeds) :
    (n, d) ∈ w.deeds ∨ ∃ l t l' h wire move, acts = l ++ .task t :: l' ∧
      Moment (w.run T l) (w.run T (l ++ [.task t])) t h wire move ∧ h.number = n ∧
      d ∈ h.deeds (w.run T l).manager.toNode move := by
  -- The moment lies in the rest of the run, or is the first act.
  induction acts generalizing w with
  | nil => exact .inl hd
  | cons a rest ih =>
      have hc := act_change T hw a
      rcases ih (hc.sound hw) hd with hold | ⟨l, t, l', h, wire, move, rfl, hmoment⟩
      · rcases hc.deeds_cases with hsame | ⟨t, h, wire, move, rfl, hmoment⟩
        · exact .inl (hsame ▸ hold)
        · rw [hmoment.deeds] at hold
          rcases List.mem_append.mp hold with hin | hin
          · exact .inl hin
          · obtain ⟨d', hd', he⟩ := List.mem_map.mp hin
            cases he
            exact .inr ⟨[], t, rest, h, wire, move, rfl, hmoment, rfl, hd'⟩
      · exact .inr ⟨a :: l, t, l', h, wire, move, rfl, hmoment⟩

/-! ## §3. Moments of single deeds. -/

section Moments

variable {t : Nat} {h : Handler} {wire : Wire} {move : Handler.Move} {node : Node}

/-- Whoever begins was fresh, on a node that was not stopped. -/
theorem of_mem_began {l : Link} {settings : Settings}
    (hd : Deed.began l settings ∈ h.deeds node move) :
    h.phase = .fresh ∧ node.isStopped = false ∧ l = h.link ∧ settings = node.settings := by
  unfold Handler.deeds at hd
  cases hp : h.phase with
  | fresh =>
      simp only [hp] at hd
      split at hd
      · cases hd
      · next hs =>
          rw [List.mem_singleton] at hd
          cases hd
          exact ⟨rfl, Bool.eq_false_iff.mpr hs, rfl, rfl⟩
  | receiving due got =>
      simp only [hp] at hd
      split at hd <;> simp at hd
  | _ =>
      simp only [hp, List.mem_filterMap, List.mem_singleton, reduceCtorEq] at hd
      all_goals
        obtain ⟨event, -, he⟩ := hd
        cases event <;> cases he

/-- Whoever has a frame on record has just received the last octet of it. -/
theorem of_mem_received {octets : Bytes} (hd : Deed.received octets ∈ h.deeds node move) :
    ∃ due, h.phase = .receiving due octets ∧ octets.length = frameLength := by
  unfold Handler.deeds at hd
  cases hp : h.phase with
  | fresh =>
      simp only [hp] at hd
      split at hd <;> simp at hd
  | receiving due got =>
      simp only [hp] at hd
      split at hd
      · next hl =>
          rw [List.mem_singleton] at hd
          cases hd
          exact ⟨due, rfl, hl⟩
      · cases hd
  | _ =>
      simp only [hp, List.mem_filterMap, List.mem_singleton, reduceCtorEq] at hd
      all_goals
        obtain ⟨event, -, he⟩ := hd
        cases event <;> cases he

/-- Whoever asks for a registration looks the key up at that moment. -/
theorem of_mem_asked {entry : Handle} {holder : Option Handle}
    (hd : Deed.asked entry holder ∈ h.deeds node move) :
    ∃ peer, h.phase = .validated peer ∧ entry = h.handle peer.identity ∧
      holder = node.registry.lookup entry.key := by
  unfold Handler.deeds at hd
  cases hp : h.phase with
  | fresh =>
      simp only [hp] at hd
      split at hd <;> simp at hd
  | receiving due got =>
      simp only [hp] at hd
      split at hd <;> simp at hd
  | validated peer =>
      simp only [hp, List.mem_singleton] at hd
      cases hd
      exact ⟨peer, rfl, rfl, rfl⟩
  | _ =>
      simp only [hp, List.mem_filterMap] at hd
      all_goals
        obtain ⟨event, -, he⟩ := hd
        cases event <;> cases he

end Moments

end LinkLayer.World

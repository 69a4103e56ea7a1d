/-
  LinkLayer.Proofs.World.Flow
  ───────────────────────────
  **OCTETS ON THE WIRES OF A WORLD.**

  On every wire, acts of the node keep what arrived, and put what they send
  behind what is on its way (`Change.flows`).  Only the remote end's own reads
  and writes do anything else.
-/
import LinkLayer.Proofs.World.Preservation

namespace LinkLayer.World

variable {σ : Type} {T : Transport σ} {me : Identity} {w w' : World σ} {a : Act σ} {n : Nat}

/-! ## §1. What is on a wire. -/

/-- All that the remote end of a connection has written. -/
def arrivedAt (w : World σ) (n : Nat) : Bytes := ((w.wire? n).map Wire.arrived).getD []

/-- All that was sent on a connection. -/
def sentAt (w : World σ) (n : Nat) : Bytes := ((w.wire? n).map Wire.sent).getD []

/-- What was sent on a connection and not yet read by the remote end. -/
def queuedAt (w : World σ) (n : Nat) : Bytes :=
  ((w.wire? n).map (·.outbound.queued)).getD []

/-- Nothing arrived, and what was sent is on its way. -/
structure Flows (w w' : World σ) (n : Nat) : Prop where
  arrived : w'.arrivedAt n = w.arrivedAt n
  sent : ∃ bs, w'.sentAt n = w.sentAt n ++ bs ∧ w'.queuedAt n = w.queuedAt n ++ bs

namespace Flows

theorem of_same (h : w'.wire? n = w.wire? n) : Flows w w' n := by
  constructor
  · unfold arrivedAt
    rw [h]
  · refine ⟨[], ?_⟩
    unfold sentAt queuedAt
    rw [h]
    simp

theorem of_evolves {wire wire' : Wire} (h : w.wire? n = some wire)
    (h' : w'.wire? n = some wire') (he : wire.Evolves wire') : Flows w w' n := by
  obtain ⟨bs, hsent, hqueued⟩ := he.sent
  constructor
  · unfold arrivedAt
    rw [h, h']
    exact he.arrived
  · refine ⟨bs, ?_⟩
    unfold sentAt queuedAt
    rw [h, h']
    exact ⟨hsent, hqueued⟩

/-- A wire is changed by something that its own end can do, or is another
one. -/
theorem of_map {f : Wire → Wire} (hf : ∀ wire : Wire, wire.Evolves (f wire))
    (h : w'.wire? n = (w.wire? n).map f) : Flows w w' n := by
  cases hwire : w.wire? n with
  | none => exact of_same (h.trans (by rw [hwire]; rfl))
  | some wire => exact of_evolves hwire (h.trans (by rw [hwire]; rfl)) (hf wire)

end Flows

/-! ## §2. Acts. -/

theorem evolves_remoteShutdown (wire : Wire) : wire.Evolves wire.remoteShutdown :=
  ⟨rfl, List.prefix_rfl, [], by simp [Wire.remoteShutdown]⟩

/-- One wire of a manager is changed. -/
theorem wire?_onWire (w : World σ) (k n : Nat) (f : Wire → Wire) :
    (w.onManager (·.onWire k f)).wire? n = if n = k then (w.wire? n).map f else w.wire? n :=
  Table.find?_modify _ _ _ _

/-- **Every act of the node lets the octets flow.** -/
theorem Change.flows (hc : Change w a w') (hw : w.Sound me) (hn : a.fed? ≠ some n) :
    Flows w w' n := by
  cases hc with
  | keep hm =>
      rcases hm.wires n with hwire | hwire
      · exact .of_same hwire
      · exact .of_map Wire.evolves_drop hwire
  | remote k what =>
      by_cases hk : n = k
      · subst hk
        have hwire := (wire?_onWire w n n what.apply).trans (if_pos rfl)
        cases what with
        | write octets => exact absurd rfl hn
        | read count => exact absurd rfl hn
        | shutDown => exact .of_map evolves_remoteShutdown hwire
        | drop => exact .of_map Wire.evolves_drop hwire
      · exact .of_same ((wire?_onWire w k n what.apply).trans (if_neg hk))
  | make kind name source remote capacity faults =>
      have hwire : (w.make kind name source remote capacity faults).wire? n =
          if n = w.next then some (Wire.new capacity faults) else w.wire? n :=
        Table.find?_put _ _ _ _
      by_cases hk : n = w.next
      · -- A new wire is empty, and there was none before.
        have hnone := hw.unwired n (Nat.le_of_eq hk.symm)
        rw [if_pos hk] at hwire
        refine ⟨?_, [], ?_⟩
        · unfold arrivedAt
          rw [hwire, hnone]
          rfl
        · unfold sentAt queuedAt
          rw [hwire, hnone]
          exact ⟨rfl, rfl⟩
      · exact .of_same (hwire.trans (if_neg hk))
  | @discard _ c hp hcon =>
      by_cases hk : n = c.wire
      · exact .of_map Wire.evolves_drop ((wire?_onWire w _ n Wire.drop).trans (if_pos hk))
      · exact .of_same ((wire?_onWire w _ n Wire.drop).trans (if_neg hk))
  | enqueue => exact .of_same rfl
  | @take _ c t origin incoming forced options m hp hcon ht hlt hnone hm =>
      refine .of_same ?_
      show m.wires.find? n = _
      rw [hm.wires]
      rfl
  | pop => exact .of_same rfl
  | spawn => exact .of_same rfl
  | @idle _ t origin activity activity' m hi ht hm =>
      refine .of_same ?_
      show m.wires.find? n = _
      rw [hm.wires]
      rfl
  | @move _ t origin h wire move ha ht hwire hturn =>
      -- A handler uses its own wire alone.
      have hput : Table.find? (w.manager.wires.put h.number move.wire) n =
          if n = h.number then some move.wire else w.wire? n := Table.find?_put _ _ _ _
      by_cases hk : n = h.number
      · exact .of_evolves (hk ▸ hwire) (hput.trans (if_pos hk)) hturn.evolves
      · exact .of_same (hput.trans (if_neg hk))
  | conclude => exact .of_same rfl
  | @cancel t origin h wire ht hwire hbusy =>
      have hput : Table.find? (w.manager.wires.put h.number
          (h.cancel w.manager.toNode wire).wire) n =
          if n = h.number then some (h.cancel w.manager.toNode wire).wire else w.wire? n :=
        Table.find?_put _ _ _ _
      -- A cancelled handler drops its wire; one that had ended leaves it alone.
      have hevolves : wire.Evolves (h.cancel w.manager.toNode wire).wire := by
        unfold Handler.cancel
        split
        · exact .refl wire
        · exact Wire.evolves_drop wire
      by_cases hk : n = h.number
      · exact .of_evolves (hk ▸ hwire) (hput.trans (if_pos hk)) hevolves
      · exact .of_same (hput.trans (if_neg hk))

/-! ## §3. What a link receives and sends. -/

/-- A link has sent a beginning of its frame, or more than the frame. -/
theorem Sound.stamped (hw : w.Sound me) (hne : w.sentAt n ≠ []) :
    ∃ l : Link, w.sentAt n <+: (l.frame me).encode ∨ (l.frame me).encode <+: w.sentAt n := by
  cases hwire : w.wire? n with
  | none => simp [sentAt, hwire] at hne
  | some wire =>
      have hsent : w.sentAt n = wire.sent := by simp [sentAt, hwire]
      by_cases htaken : ∃ t, w.place n = .taken t
      · obtain ⟨t, hp⟩ := htaken
        obtain ⟨c, wire', task, -, hwire', -, hatt⟩ := hw.attended n t hp
        rw [hwire] at hwire'
        cases hwire'
        obtain ⟨l, -, -, hstamped, -⟩ := hatt.story
        rw [hsent]
        exact ⟨l, hstamped⟩
      · -- A connection that no task has was not used.
        obtain ⟨-, -, hrec⟩ := hw.idle n (not_exists.mp htaken)
        have hblank : wire.sent = [] := congrArg Wire.Record.sent (hrec wire hwire)
        exact absurd (hsent.trans hblank) hne

/-- The frame that a link received is the first that arrived. -/
theorem Sound.received (hw : w.Sound me) {octets : Bytes}
    (ho : Deed.received octets ∈ w.deedsOf n) :
    octets.length = frameLength ∧ octets <+: w.arrivedAt n := by
  obtain ⟨t, c, wire, task, -, -, -, hwire, -, hatt⟩ := hw.of_mem_deedsOf ho
  obtain ⟨l, -, -, -, hreceipt⟩ := hatt.story
  obtain ⟨hlen, htaken⟩ := hreceipt octets ho
  have harrived : w.arrivedAt n = wire.arrived := by simp [arrivedAt, hwire]
  rw [harrived]
  exact ⟨hlen, htaken.trans wire.taken_prefix_arrived⟩

end LinkLayer.World

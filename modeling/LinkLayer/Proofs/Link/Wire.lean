/-
  LinkLayer.Proofs.Link.Wire
  ──────────────────────────
  **WHAT THE TWO ENDS CAN DO TO A WIRE.**

  `Evolves` is all that the link's end, or the engine that owns it, can do:
  what has arrived stays, what was taken is a beginning of what is taken
  later, and octets that are sent go onto the pipe in their order.  Each read,
  write, close and drop is of this kind, and so is every number of them.

  `Record` is what was done at the link's end, and the remote end does not
  change it.
-/
import LinkLayer.Link.Wire

namespace LinkLayer.Wire

/-! ## §1. The link's end. -/

/-- What the link's end can make of a wire. -/
structure Evolves (w w' : Wire) : Prop where
  arrived : w'.arrived = w.arrived
  taken : w.taken <+: w'.taken
  sent : ∃ bs, w'.sent = w.sent ++ bs ∧ w'.outbound.queued = w.outbound.queued ++ bs

theorem Evolves.refl (w : Wire) : w.Evolves w :=
  ⟨rfl, List.prefix_rfl, [], by simp⟩

theorem Evolves.trans {w₁ w₂ w₃ : Wire} (h : w₁.Evolves w₂) (h' : w₂.Evolves w₃) :
    w₁.Evolves w₃ := by
  obtain ⟨bs, hs, hq⟩ := h.sent
  obtain ⟨bs', hs', hq'⟩ := h'.sent
  refine ⟨h'.arrived.trans h.arrived, h.taken.trans h'.taken, bs ++ bs', ?_, ?_⟩
  · rw [hs', hs, List.append_assoc]
  · rw [hq', hq, List.append_assoc]

theorem evolves_drop (w : Wire) : w.Evolves w.drop :=
  ⟨rfl, List.prefix_rfl, [], by simp [drop, Pipe.close]⟩

theorem evolves_shutdown (w : Wire) : w.Evolves w.shutdown.2 := by
  unfold shutdown
  split
  · exact ⟨rfl, List.prefix_rfl, [], by simp⟩
  · split <;> exact ⟨rfl, List.prefix_rfl, [], by simp [Pipe.close]⟩

theorem evolves_read {w w' : Wire} {limit : Nat} {bs : Bytes}
    (h : w.read limit = .done (bs, w')) : w.Evolves w' := by
  refine ⟨arrived_read h, ⟨bs, (taken_read h).symm⟩, [], ?_⟩
  unfold read at h
  split at h
  · cases h
  · split at h
    · split at h
      · cases h; simp
      · cases h
    · cases h; simp

/-- A write puts the same octets onto the pipe and among those that were
sent. -/
theorem evolves_write {w w' : Wire} {bs rest : Bytes}
    (h : w.write bs = .done (rest, w')) : w.Evolves w' := by
  unfold write at h
  split at h
  · cases h
  · split at h
    · cases h
    · split at h
      · cases h
      · cases h
        exact ⟨rfl, List.prefix_rfl, _, rfl, rfl⟩

/-- A write takes nothing from the wire. -/
theorem taken_write {w w' : Wire} {bs rest : Bytes}
    (h : w.write bs = .done (rest, w')) : w'.taken = w.taken := by
  unfold write at h
  split at h
  · cases h
  · split at h
    · cases h
    · split at h
      · cases h
      · cases h; rfl

/-- A read sends nothing. -/
theorem sent_read {w w' : Wire} {limit : Nat} {bs : Bytes}
    (h : w.read limit = .done (bs, w')) : w'.sent = w.sent := by
  unfold read at h
  split at h
  · cases h
  · split at h
    · split at h
      · cases h; rfl
      · cases h
    · cases h; rfl

/-- A read takes no more than its limit. -/
theorem length_read {w w' : Wire} {limit : Nat} {bs : Bytes}
    (h : w.read limit = .done (bs, w')) : bs.length ≤ limit := by
  unfold read at h
  split at h
  · cases h
  · split at h
    · split at h
      · cases h; simp
      · cases h
    · cases h
      unfold allowed
      split <;> simp only [List.length_take] <;> omega

/-! ## §2. What was done at the link's end. -/

/-- What was done with a wire at the link's end: the octets that were taken,
those that were sent, and how often an orderly close was asked for. -/
structure Record where
  taken : Bytes := []
  sent : Bytes := []
  closes : Nat := 0
  deriving Repr, DecidableEq

/-- What was done with a wire so far. -/
def record (w : Wire) : Record := ⟨w.taken, w.sent, w.closes⟩

@[simp] theorem record_drop (w : Wire) : w.drop.record = w.record := rfl

/-- Whoever asks for an orderly close neither takes nor sends, and it is on
record that it was asked for. -/
@[simp] theorem record_shutdown (w : Wire) :
    w.shutdown.2.record = ⟨w.taken, w.sent, w.closes + 1⟩ := by
  unfold shutdown
  split
  · rfl
  · split <;> rfl

theorem sent_shutdown (w : Wire) : w.shutdown.2.sent = w.sent :=
  congrArg Record.sent w.record_shutdown

/-- What may still come in stays as it is. -/
theorem inbound_shutdown (w : Wire) : w.shutdown.2.inbound = w.inbound := by
  unfold shutdown
  split
  · rfl
  · split <;> rfl

/-- What was taken has arrived. -/
theorem taken_prefix_arrived (w : Wire) : w.taken <+: w.arrived :=
  List.prefix_append _ _

/-- A remote write takes and sends nothing at the link's end. -/
theorem record_remoteWrite {w w' : Wire} {bs : Bytes} {k : Nat}
    (h : w.remoteWrite bs = some (k, w')) : w'.record = w.record := by
  unfold remoteWrite at h
  split at h
  · cases h
  · cases h; rfl

end LinkLayer.Wire

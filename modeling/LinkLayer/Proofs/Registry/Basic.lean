/-
  LinkLayer.Proofs.Registry.Basic
  ───────────────────────────────
  **THE REGISTRY AS A TABLE WITH ONE ENTRY FOR A KEY.**

  `Proper` says that no two entries have one key.  Registering and
  deregistering keep it, and on a proper registry

    • a look-up finds exactly the entry that has the key,
    • a registration adds the handle or changes nothing,
    • deregistering an entry takes out that entry and no other one, and fires
      its signal and no other one.
-/
import LinkLayer.Registry

namespace LinkLayer.Registry

/-- No two entries have one key. -/
def Proper (r : Registry) : Prop := r.entries.Pairwise (·.key ≠ ·.key)

/-! ## §1. Look-ups. -/

theorem lookup_eq_none {r : Registry} {key : LinkKey} :
    r.lookup key = none ↔ ∀ e ∈ r.entries, e.key ≠ key := by
  simp [lookup]

theorem mem_of_lookup {r : Registry} {key : LinkKey} {e : Handle}
    (h : r.lookup key = some e) : e ∈ r.entries ∧ e.key = key := by
  refine ⟨List.mem_of_find?_eq_some h, ?_⟩
  simpa using List.find?_some h

/-- Two entries of a proper registry with one key are one entry. -/
theorem Proper.eq_of_key {r : Registry} (h : r.Proper) {a b : Handle} (ha : a ∈ r.entries)
    (hb : b ∈ r.entries) (hk : a.key = b.key) : a = b := by
  obtain ⟨entries, fired⟩ := r
  simp only [Proper] at *
  induction entries with
  | nil => cases ha
  | cons e rest ih =>
      obtain ⟨he, hrest⟩ := List.pairwise_cons.mp h
      rcases List.mem_cons.mp ha with hae | har <;> rcases List.mem_cons.mp hb with hbe | hbr
      · rw [hae, hbe]
      · exact absurd (hae ▸ hk) (he b hbr)
      · exact absurd (hbe ▸ hk).symm (he a har)
      · exact ih hrest har hbr

/-- An entry is what its key finds. -/
theorem Proper.lookup_of_mem {r : Registry} (h : r.Proper) {e : Handle}
    (he : e ∈ r.entries) : r.lookup e.key = some e := by
  cases hl : r.lookup e.key with
  | none => exact absurd rfl (lookup_eq_none.mp hl e he)
  | some e' =>
      obtain ⟨hm, hk⟩ := mem_of_lookup hl
      rw [h.eq_of_key hm he hk]

/-! ## §2. Registering. -/

theorem register_of_some {r : Registry} {h e : Handle} (hl : r.lookup h.key = some e) :
    r.register h = (.duplicate e, r) := by
  simp [register, hl]

theorem register_of_none {r : Registry} {h : Handle} (hl : r.lookup h.key = none) :
    r.register h = (.inserted, { r with entries := h :: r.entries }) := by
  simp [register, hl]

/-- An entry under a free key leaves the registry proper. -/
theorem Proper.insert {r : Registry} (h : r.Proper) {e : Handle}
    (hl : r.lookup e.key = none) : Proper { r with entries := e :: r.entries } := by
  refine List.pairwise_cons.mpr ⟨fun e' he' hk => ?_, h⟩
  exact lookup_eq_none.mp hl e' he' hk.symm

/-! ## §3. Deregistering. -/

theorem mem_fired_fire {r : Registry} {id n : Nat} :
    n ∈ (r.fire id).2.fired ↔ n = id ∨ n ∈ r.fired := by
  unfold fire
  split
  · next h =>
      constructor
      · exact Or.inr
      · rintro (rfl | h')
        · exact h
        · exact h'
  · simp

theorem entries_fire (r : Registry) (id : Nat) : (r.fire id).2.entries = r.entries := by
  unfold fire
  split <;> rfl

/-- Deregistering fires the signal of the handle, and no other one. -/
theorem mem_fired_deregister {r : Registry} {e : Handle} {n : Nat} :
    n ∈ (r.deregister e).2.fired ↔ n = e.id ∨ n ∈ r.fired := by
  simp only [deregister, mem_fired_fire]

/-- Deregistering an entry takes out this entry, and no other one. -/
theorem Proper.mem_deregister {r : Registry} (h : r.Proper) {e : Handle}
    (he : e ∈ r.entries) {e' : Handle} :
    e' ∈ (r.deregister e).2.entries ↔ e' ∈ r.entries ∧ e' ≠ e := by
  have hh : r.holds e = true := by
    simp [holds, h.lookup_of_mem he]
  simp only [deregister, hh, if_true, entries_fire, List.mem_filter, decide_eq_true_eq]
  constructor
  · rintro ⟨hm, hk⟩
    exact ⟨hm, fun heq => hk (heq ▸ rfl)⟩
  · rintro ⟨hm, hne⟩
    exact ⟨hm, fun hk => hne (h.eq_of_key hm he hk)⟩

theorem Proper.deregister {r : Registry} (h : r.Proper) (e : Handle) :
    (r.deregister e).2.Proper := by
  simp only [Proper, Registry.deregister, entries_fire]
  split
  · exact h.filter _
  · exact h

end LinkLayer.Registry

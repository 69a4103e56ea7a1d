/-
  LinkLayer.Proofs.Link.Entry
  ───────────────────────────
  **A HANDLER, ITS ENTRY AND ITS SIGNAL.**

  A move does one of three things to the registry (`Effect`): nothing, it
  enters the handler's entry under a free key, or it takes that entry out.
  Cancellations are moves in this sense too.

    • `Effect.entries` — of all entries, only the handler's own one changes,
    • `Turn.fired`, `cancel_fired` — the signal of a link fires when the link
      ends after a registration, and not otherwise.
-/
import LinkLayer.Proofs.Link.Chronicle

namespace LinkLayer.Handler

variable {node : Node} {wire : Wire} {h : Handler} {move : Move} {ds : List Deed}

/-! ## §1. What a move does to the registry. -/

/-- What a turn does to a registry. -/
inductive Effect (r : Registry) (h : Handler) (move : Move) : Prop
  | keep : move.registry = r → move.handler.entry? = h.entry? → Effect r h move
  | enter (entry : Handle) : h.entry? = none → r.lookup entry.key = none →
      move.registry = { r with entries := entry :: r.entries } →
      move.handler.entry? = some entry → Effect r h move
  | leave (entry : Handle) : h.entry? = some entry → move.handler.entry? = none →
      move.registry = (r.deregister entry).2 → Effect r h move

theorem release_registry (r : Registry) (e : Handle) :
    (release r e).1 = (r.deregister e).2 := by
  unfold release
  split <;> simp_all

theorem GivesUp.entry {cause : LinkError} (hg : GivesUp node wire h.phase cause) :
    h.entry? = none := by
  unfold entry?
  generalize h.phase = phase at hg
  cases hg <;> rfl

/-- **A turn leaves the registry alone, enters its entry, or takes it out.** -/
theorem Turn.effect (ht : Turn node wire h move) : Effect node.registry h move := by
  cases ht with
  | giveUp hg => exact .keep rfl hg.entry.symm
  | register hp hl => exact .enter _ (by simp [hp, entry?]) hl rfl rfl
  | collapse hp =>
      exact .leave _ (by simp only [hp, entry?]) rfl (release_registry _ _)
  | leave hp =>
      exact .leave _ (by simp only [hp, entry?]) rfl (release_registry _ _)
  | refuse hp => exact .keep rfl (by simp [hp, closing, entry?])
  | begin hp => exact .keep rfl (by simp [hp, entry?])
  | send hp => exact .keep rfl (by simp [hp, entry?])
  | sent hp => exact .keep rfl (by simp [hp, entry?])
  | flush hp => exact .keep rfl (by simp [hp, entry?])
  | receive hp => exact .keep rfl (by simp [hp, entry?])
  | receiveAll hp => exact .keep rfl (by simp [hp, entry?])
  | turnAway hp => exact .keep rfl (by simp [hp, closing, entry?])
  | validate hp => exact .keep rfl (by simp [hp, entry?])
  | findDuplicate hp => exact .keep rfl (by simp [hp, closing, entry?])
  | handOver hp => exact .keep rfl (by simp [hp, entry?])
  | carryOn hp => exact .keep rfl (by simp [hp, entry?])
  | «return» hp => exact .keep rfl (by simp [hp, entry?])
  | finish hp => exact .keep rfl (by simp [hp, entry?])

/-- A cancellation does the same. -/
theorem cancel_effect : Effect node.registry h (h.cancel node wire) := by
  unfold cancel
  cases ho : h.outcome? with
  | some outcome => exact .keep rfl rfl
  | none =>
      cases he : h.entry? with
      | none => exact .keep rfl he.symm
      | some entry => exact .leave entry he rfl (release_registry _ _)

namespace Effect

variable {r : Registry}

theorem proper (he : Effect r h move) (hp : r.Proper) : move.registry.Proper := by
  cases he with
  | keep hr => exact hr ▸ hp
  | enter entry hnone hl hr => exact hr ▸ hp.insert hl
  | leave entry hsome hnone hr => exact hr ▸ hp.deregister entry

/-- Of the entries, the handler's own is replaced. -/
theorem entries (he : Effect r h move) (hp : r.Proper)
    (hin : ∀ e, h.entry? = some e → e ∈ r.entries) (e : Handle) :
    e ∈ move.registry.entries ↔
      (e ∈ r.entries ∧ h.entry? ≠ some e) ∨ move.handler.entry? = some e := by
  cases he with
  | keep hr hsame =>
      rw [hr, hsame]
      constructor
      · intro hm
        by_cases hown : h.entry? = some e
        · exact .inr hown
        · exact .inl ⟨hm, hown⟩
      · rintro (⟨hm, -⟩ | hown)
        · exact hm
        · exact hin e hown
  | enter entry hnone hl hr hsome =>
      rw [hr, hnone, hsome]
      simp [or_comm, eq_comm]
  | leave entry hsome hnone hr =>
      rw [hr, hnone, hp.mem_deregister (hin entry hsome), hsome]
      simp [eq_comm]

/-- No signal fires but that of the handler's own entry. -/
theorem fired_other (he : Effect r h move) (hid : ∀ e, h.entry? = some e → e.id = h.number)
    {n : Nat} (hn : n ≠ h.number) : n ∈ move.registry.fired ↔ n ∈ r.fired := by
  cases he with
  | keep hr => rw [hr]
  | enter entry hnone hl hr => rw [hr]
  | leave entry hsome hnone hr =>
      rw [hr, Registry.mem_fired_deregister, hid entry hsome]
      simp [hn]

end Effect

/-- An entry goes under the number of its handler. -/
theorem Chronicle.entry_id (hc : h.Chronicle ds) {e : Handle} (he : h.entry? = some e) :
    ∃ peer, e = h.link.entry h.number peer := by
  unfold Chronicle at hc
  unfold entry? at he
  cases hp : h.phase with
  | registered peer entry =>
      rw [hp] at hc he
      cases he
      obtain ⟨octets, -, hent, -⟩ := hc
      exact ⟨_, hent⟩
  | tunnelling entry session =>
      rw [hp] at hc he
      cases he
      obtain ⟨octets, peer, -, hent, -⟩ := hc
      exact ⟨_, hent⟩
  | leaving entry result =>
      rw [hp] at hc he
      cases he
      obtain ⟨octets, peer, -, hent, -⟩ := hc
      exact ⟨_, hent⟩
  | _ => simp [hp] at he

/-- Whoever still moves has not ended. -/
theorem Turn.outcome_none (ht : Turn node wire h move) : h.outcome? = none := by
  unfold outcome?
  cases ht with
  | giveUp hg =>
      generalize h.phase = phase at hg
      cases hg <;> rfl
  | _ => simp_all

/-! ## §2. Signals. -/

/-- **A turn fires the handler's signal if it ends a registered link, and not
otherwise.** -/
theorem Turn.fired (ht : Turn node wire h move) (hc : h.Chronicle ds)
    (hf : h.number ∉ node.registry.fired) : h.number ∈ move.registry.fired ↔
      move.handler.outcome?.isSome = true ∧ Registered (ds ++ h.deeds node move) := by
  have hsilent : ∀ {r : Registry} {h' : Handler}, r.fired = node.registry.fired →
      h'.outcome? = none →
      (h.number ∈ r.fired ↔ h'.outcome?.isSome = true ∧ Registered (ds ++ h.deeds node move)) := by
    intro r h' hr ho
    rw [hr, ho]
    simp [hf]
  have hserved : ∀ {entry : Handle}, (∃ octets peer, Welcome h.link h.settings octets peer ∧
      entry = h.link.entry h.number peer.identity ∧
      ds = servedLog h.link h.number h.settings octets peer) →
      h.number ∈ (release node.registry entry).1.fired ∧
        Registered (ds ++ h.deeds node move) := by
    rintro entry ⟨octets, peer, -, rfl, rfl⟩
    obtain ⟨e, he⟩ := registered_servedLog h.link h.number h.settings octets peer
    rw [release_registry, Registry.mem_fired_deregister]
    exact ⟨.inl rfl, e, List.mem_append_left _ he⟩
  cases ht with
  | @finish due outcome notices hp hcl =>
      -- A handler that closes its connection itself was not registered.
      have hover : Rejected h.link h.number ds outcome := by
        simpa only [Chronicle, hp] using hc
      refine iff_of_false hf ?_
      rintro ⟨-, hreg⟩
      simp only [Handler.deeds, hp, handOvers_notices, List.append_nil] at hreg
      exact hover.not_registered hreg
  | collapse hp =>
      simp only [Chronicle, hp] at hc
      obtain ⟨hfired, hreg⟩ := hserved hc
      exact iff_of_true hfired ⟨rfl, hreg⟩
  | leave hp =>
      simp only [Chronicle, hp] at hc
      obtain ⟨hfired, hreg⟩ := hserved hc
      exact iff_of_true hfired ⟨rfl, hreg⟩
  | receive hp hl => exact hsilent rfl rfl
  | _ => exact hsilent rfl rfl

/-- A cancelled handler has an outcome, and its record fits that. -/
theorem cancel_over (node : Node) (wire : Wire) (hb : h.isBusy = false)
    (hc : h.Chronicle ds) :
    Over h.link h.number ds ((h.cancel node wire).handler.outcome?.getD .cancelled) := by
  have hcancel := cancel_chronicle node wire hb hc
  unfold cancel at *
  cases ho : h.outcome? with
  | none =>
      simp only [ho] at hcancel ⊢
      exact hcancel
  | some outcome =>
      simp only [ho, Option.getD_some]
      simpa only [Chronicle, outcome?_eq_some.mp ho] using hc

/-- A cancelled handler holds no entry. -/
theorem cancel_entry : (h.cancel node wire).handler.entry? = none := by
  unfold cancel
  cases ho : h.outcome? with
  | none => rfl
  | some outcome =>
      show h.entry? = none
      rw [ entry?, outcome?_eq_some.mp ho]

/-- A cancelled link has the outcome that it had, or that of a
cancellation. -/
theorem cancel_outcome (node : Node) (wire : Wire) (h : Handler) :
    (h.cancel node wire).handler.outcome? = some (h.outcome?.getD .cancelled) := by
  unfold cancel
  cases ho : h.outcome? with
  | some outcome => exact ho
  | none => rfl

/-- A cancellation takes and sends nothing. -/
theorem record_cancel (node : Node) (wire : Wire) (h : Handler) :
    (h.cancel node wire).wire.record = wire.record := by
  unfold cancel
  split <;> rfl

/-- A cancellation fires the handler's signal if it is registered. -/
theorem cancel_fired (node : Node) (wire : Wire) (hb : h.isBusy = false) (hc : h.Chronicle ds)
    (hf : h.number ∈ node.registry.fired ↔ h.outcome?.isSome = true ∧ Registered ds) :
    h.number ∈ (h.cancel node wire).registry.fired ↔ Registered ds := by
  cases ho : h.outcome? with
  | some outcome =>
      rw [ho] at hf
      simpa [cancel, ho] using hf
  | none =>
      rw [ho] at hf
      have hsilent : h.number ∉ node.registry.fired := fun hin => by simp [hf] at hin
      -- A handler that waits holds an entry only while it tunnels.
      cases he : h.entry? with
      | some entry =>
          obtain ⟨peer, hent⟩ := hc.entry_id he
          have hfired : h.number ∈ (h.cancel node wire).registry.fired := by
            simp only [cancel, ho, he, release_registry, Registry.mem_fired_deregister]
            exact .inl (by rw [hent]; rfl)
          refine iff_of_true hfired ?_
          unfold entry? at he
          unfold isBusy at hb
          unfold Chronicle at hc
          split at he
          · next hp => simp [hp] at hb
          · next hp =>
              rw [hp] at hc
              obtain ⟨octets, frame, -, -, rfl⟩ := hc
              exact registered_servedLog _ _ _ _ _
          · next hp => simp [hp] at hb
          · cases he
      | none =>
          -- Nothing is released, and the record shows no registration.
          have hsame : (h.cancel node wire).registry = node.registry := by
            simp only [cancel, ho, he]
          rw [hsame]
          refine iff_of_false hsilent ?_
          unfold outcome? at ho
          unfold entry? at he
          unfold Chronicle at hc
          unfold isBusy at hb
          rintro ⟨e, hm⟩
          cases hp : h.phase with
          | closing due outcome =>
              rw [hp] at hc
              exact hc.not_registered ⟨e, hm⟩
          | _ => simp_all

end LinkLayer.Handler

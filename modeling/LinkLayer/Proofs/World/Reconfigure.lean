/-
  LinkLayer.Proofs.World.Reconfigure
  ──────────────────────────────────
  **A NEW CONFIGURATION FOR A RUNNING NODE.**

  Whatever has happened to a node, its listeners are in order (`orderly_run`),
  so a configuration does to it what it does to every orderly manager.  The
  links are left alone: their handlers keep the settings with which they began,
  and no handler that has begun looks at the settings of the node again.

    • `step_settings` — whoever has begun does not look at the settings again,
    • `reconfigure_reconciles` — **what a configuration does, in every state
      of a node that is not stopped.**
-/
import LinkLayer.Proofs.World.AfterStop
import LinkLayer.Proofs.World.Dealing
import LinkLayer.Proofs.World.Settled

namespace LinkLayer

/-! ## §1. Handlers and the settings of the node. -/

/-- **Whoever has begun does not look at the settings of the node again.** -/
theorem Handler.step_settings {h : Handler} (hp : h.phase ≠ .fresh) (node : Node) (wire : Wire)
    (settings : Settings) : h.step { node with settings } wire = h.step node wire := by
  unfold step
  cases hphase : h.phase with
  | fresh => exact absurd hphase hp
  | _ => rfl

/-! ## §2. The links. -/

namespace World

variable {σ : Type} {me : Identity} {w : World σ}

/-- **Nothing happened to the links**: the registry and its signals, the
handlers with their settings, their wires and what they are about to do are
the same. -/
structure Undisturbed (w w' : World σ) : Prop where
  registry : w'.manager.registry = w.manager.registry
  handlers : ∀ t, w'.handler? t = w.handler? t
  wires : ∀ t h, w.handler? t = some h → w'.wire? h.number = w.wire? h.number
  steps : ∀ t h, w.handler? t = some h → h.phase ≠ .fresh → ∀ wire,
    h.step w'.manager.toNode wire = h.step w.manager.toNode wire
  deeds : w'.deeds = w.deeds

/-- What leaves tasks, registry and all but the settings and the stop alone
leaves the links alone. -/
theorem Sound.undisturbed (hw : w.Sound me) {m : Manager σ} (hm : w.manager.Keeps m)
    {settings : Settings} {isStopped : Bool}
    (hnode : m.toNode = { w.manager.toNode with settings, isStopped }) :
    w.Undisturbed { w with manager := m } where
  registry := hm.registry
  handlers := fun t => by rw [handler?, handler?, hm.tasks]
  wires := fun t h hh => hm.spared h.number (hw.not_queued (hw.holders t h hh))
  steps := fun t h _ hp wire => by
    rw [hnode]
    exact (Handler.step_isStopped hp { w.manager.toNode with settings } wire isStopped).trans
      (Handler.step_settings hp _ wire settings)
  deeds := rfl

/-- **A new configuration reconciles the listeners, and does nothing else.**
In every state of a node that is not stopped,

  • a bad configuration is refused, and nothing changes,
  • a valid one does what `Reconciled` says, and a second time nothing if it
    succeeded the first time,
  • the links are undisturbed in any case. -/
theorem reconfigure_reconciles (T : Transport σ) (me : Identity) (settings : Settings)
    (engine : Engine) (state : σ) (acts : List (Act σ)) (config : LinkConfig) :
    let w := (start me settings engine state).run T acts
    let answer := w.manager.reconfigure T config
    w.manager.isStopped = false →
      (∀ e, config.settings = .error e → answer = (.error (.config e), w.manager)) ∧
      (∀ wanted, config.settings = .ok wanted →
        w.manager.Reconciled T wanted answer ∧
        (answer.1 = .ok () → answer.2.reconfigure T config = (.ok (), answer.2))) ∧
      w.Undisturbed (w.act T (.reconfigure config)) := by
  intro w answer hs
  have hw : w.Sound me := sound_run T me settings engine state acts
  have ho : w.manager.Orderly := orderly_run T me settings engine state acts
  have hkeeps := Manager.keeps_reconfigure T w.manager config
  have hbad : ∀ e, config.settings = .error e → answer = (.error (.config e), w.manager) := by
    intro e hc
    show w.manager.reconfigure T config = _
    rw [Manager.reconfigure, hc]
  have hgood : ∀ wanted, config.settings = .ok wanted → w.manager.Reconciled T wanted answer :=
    fun wanted hc => Manager.reconfigure_reconciled T ho hs hc
  refine ⟨hbad, fun wanted hc => ⟨hgood wanted hc, (hgood wanted hc).again hc⟩, ?_⟩
  cases hc : config.settings with
  | error e =>
      have hnode : answer.2.toNode = { w.manager.toNode with settings := w.manager.settings } :=
        congrArg (fun a => a.2.toNode) (hbad e hc)
      exact hw.undisturbed hkeeps hnode
  | ok wanted => exact hw.undisturbed hkeeps (hgood wanted hc).toNode

/-- A place to listen. -/
def somePlace (d : UInt8) : ListenSpec := ⟨.tcp, ⟨.v4 ⟨192, 0, 2, d⟩, 9⟩⟩

/-- A node listens at two places, and at a third one it cannot. -/
def listening : World Script :=
  (start (.replicate 0xaa) {} .collect
    { listenErrors := [("tcp://192.0.2.3:9", .io "address in use")] }).run Script.transport
    [.listen (somePlace 1), .listen (somePlace 2)]

/-- The second place is to be kept, and the third one to be added. -/
def moved : LinkConfig := { listen := ["tcp://192.0.2.2:9", "tcp://192.0.2.3:9"] }

/-- The first listener is ended, the second one kept, and the third one is not
there; its error is the result. -/
theorem reconfigure_reconciles_moved :
    listening.manager.isStopped = false ∧
    moved.settings = .ok { listen := [somePlace 2, somePlace 3] } ∧
    listening.manager.Reconciled Script.transport { listen := [somePlace 2, somePlace 3] }
      (listening.manager.reconfigure Script.transport moved) ∧
    (listening.manager.reconfigure Script.transport moved).2.places = [somePlace 2] ∧
    (listening.manager.reconfigure Script.transport moved).1 =
      .error (.transport (.io "address in use")) := by
  have hs : listening.manager.isStopped = false := by decide
  have hc : moved.settings = .ok { listen := [somePlace 2, somePlace 3] } := by decide +kernel
  have h := reconfigure_reconciles Script.transport (.replicate 0xaa) {} .collect
    { listenErrors := [("tcp://192.0.2.3:9", .io "address in use")] }
    [.listen (somePlace 1), .listen (somePlace 2)] moved hs
  exact ⟨hs, hc, (h.2.1 _ hc).1, by decide +kernel, by decide +kernel⟩

end World

end LinkLayer

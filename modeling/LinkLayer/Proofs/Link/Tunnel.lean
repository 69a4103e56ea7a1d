/-
  LinkLayer.Proofs.Link.Tunnel
  ────────────────────────────
  **WHAT AN ENGINE DOES WITH ITS WIRE.**

  An engine that has a connection reads and writes, shuts down and drops, as a
  link does before it.  So what it does can be put on the same kind of log.

    • `Session.strokes`, `EngineAct.strokes` — the strokes in a move of one of
      the engines of this library, and in what any engine can do,
    • `afterEngine_wire` — a tunnel changes its wire just by these strokes,
    • `closed_applyAll` — no stroke opens a pipe again.
-/
import LinkLayer.Proofs.Link.Stroke
import LinkLayer.Proofs.World.Basic

namespace LinkLayer

open Stroke

/-! ## §1. Strokes of engines. -/

/-- What an engine did to a wire fits what came of it. -/
def Engine.Progress.Fits (wire : Wire) (log : List Stroke) : Engine.Progress → Prop
  | .waiting => log = []
  | .going _ wire' => wire' = applyAll wire log
  | .returned .. | .collapsed => log = [.drop]

namespace Engine.Session

/-- The number of octets for which the next move of a session asks, if that is
a read. -/
def asks (s : Session) : Option Nat :=
  match s.engine with
  | .leave | .refuse _ | .collapse => none
  | _ => if s.unsent = [] then some s.engine.readLimit else none

/-- The strokes in the next move of a session.  With a session that ends goes
its wire. -/
def strokes (s : Session) (wire : Wire) : List Stroke :=
  match s.engine with
  | .leave | .refuse _ | .collapse => [.drop]
  | _ =>
      if s.unsent = [] then
        match wire.read s.engine.readLimit with
        | .wait => []
        | .failed _ => [.drop]
        | .done (bs, _) => if bs = [] then [.drop] else [.read bs]
      else
        match wire.write s.unsent with
        | .wait => []
        | .failed _ => [.drop]
        | .done (rest, _) => [.write (s.unsent.take (s.unsent.length - rest.length))]

theorem readMore_fits (s : Session) (wire : Wire) :
    (s.readMore wire).Fits wire
      (match wire.read s.engine.readLimit with
        | .wait => []
        | .failed _ => [.drop]
        | .done (bs, _) => if bs = [] then [.drop] else [.read bs]) := by
  unfold readMore
  cases hr : wire.read s.engine.readLimit with
  | wait => rfl
  | failed reason => rfl
  | done result =>
      obtain ⟨bs, wire'⟩ := result
      by_cases hb : bs = []
      · -- The end of what the peer sends is the end of the session.
        simp only [hb, if_true]
        unfold atEnd
        cases s.engine <;> rfl
      · simp only [hb, if_false]
        exact Wire.read_eq_apply hr

theorem writeMore_fits (s : Session) (wire : Wire) :
    (s.writeMore wire).Fits wire
      (match wire.write s.unsent with
        | .wait => []
        | .failed _ => [.drop]
        | .done (rest, _) => [.write (s.unsent.take (s.unsent.length - rest.length))]) := by
  unfold writeMore
  cases hw : wire.write s.unsent with
  | wait => rfl
  | failed reason => rfl
  | done result => exact Wire.write_eq_apply hw

/-- The next move of a session is as its strokes say. -/
theorem step_fits (s : Session) (wire : Wire) : (s.step wire).Fits wire (s.strokes wire) := by
  have hread := s.readMore_fits wire
  have hwrite := s.writeMore_fits wire
  unfold step strokes
  cases he : s.engine with
  | leave => rfl
  | refuse reason => rfl
  | collapse => rfl
  | _ =>
      rw [he] at hread
      dsimp only
      split
      · exact hread
      · exact hwrite

end Engine.Session

namespace EngineAct

/-- The number of octets for which an engine asks, if it reads. -/
def asks : EngineAct → Option Nat
  | .read limit => some limit
  | _ => none

/-- The strokes in what an engine does. -/
def strokes (wire : Wire) : EngineAct → List Stroke
  | .read limit =>
      match wire.read limit with
      | .done (bs, _) => [.read bs]
      | _ => []
  | .write bs =>
      match wire.write bs with
      | .done (rest, _) => [.write (bs.take (bs.length - rest.length))]
      | _ => []
  | .shutDown =>
      match wire.shutdown with
      | (.wait, _) => []
      | _ => [.shutDown]
  | .drop | .finish _ | .collapse => [.drop]

/-- What comes of it is as the strokes say. -/
theorem progress_fits (session : Engine.Session) (wire : Wire) (what : EngineAct) :
    (what.progress session wire).Fits wire (what.strokes wire) := by
  cases what with
  | read limit =>
      unfold progress strokes
      dsimp only
      cases hr : wire.read limit with
      | wait => rfl
      | failed reason => rfl
      | done result => exact Wire.read_eq_apply hr
  | write bs =>
      unfold progress strokes
      dsimp only
      cases hw : wire.write bs with
      | wait => rfl
      | failed reason => rfl
      | done result => exact Wire.write_eq_apply hw
  | shutDown =>
      have happly : Stroke.apply wire .shutDown = wire.shutdown.2 := rfl
      unfold progress strokes
      rcases hs : wire.shutdown with ⟨attempt, wire'⟩
      rw [hs] at happly
      cases attempt with
      | wait => rfl
      | failed reason => exact happly.symm
      | done result => exact happly.symm
  | drop => rfl
  | finish result => rfl
  | collapse => rfl

end EngineAct

/-- **A tunnel changes its wire just by the strokes of its engine.** -/
theorem Handler.afterEngine_wire {node : Node} {wire : Wire} {h : Handler} {entry : Handle}
    {progress : Engine.Progress} {log : List Stroke} {move : Handler.Move}
    (hm : h.afterEngine node wire entry progress = some move) (hf : progress.Fits wire log) :
    move.wire = applyAll wire log := by
  cases progress with
  | waiting => cases hm
  | going session wire' =>
      cases hm
      exact hf
  | returned result notices =>
      cases hm
      rw [show log = [.drop] from hf]
      rfl
  | collapsed =>
      cases hm
      rw [show log = [.drop] from hf]
      rfl

/-- An engine that waits makes no stroke. -/
theorem Handler.fits_of_waits {node : Node} {wire : Wire} {h : Handler} {entry : Handle}
    {progress : Engine.Progress} {log : List Stroke}
    (hm : h.afterEngine node wire entry progress = none) (hf : progress.Fits wire log) :
    log = [] := by
  cases progress with
  | waiting => exact hf
  | _ => cases hm

/-! ## §2. What no stroke does. -/

/-- A pipe that is closed stays closed. -/
theorem Stroke.closed_applyAll {wire : Wire} (hc : wire.inbound.closed = true)
    (log : List Stroke) : (applyAll wire log).inbound.closed = true := by
  induction log generalizing wire with
  | nil => exact hc
  | cons s rest ih =>
      refine ih ?_
      cases s with
      | drop => rfl
      | shutDown =>
          rw [apply, Wire.inbound_shutdown]
          exact hc
      | _ => exact hc

/-- A read that asks for something and gets nothing has found the end: all that
arrived is read, and nothing more can come. -/
theorem Wire.read_end {wire wire' : Wire} {limit : Nat} (hl : 0 < limit)
    (hr : wire.read limit = .done ([], wire')) :
    wire.inbound.queued = [] ∧ wire.inbound.closed = true := by
  unfold Wire.read at hr
  split at hr
  · cases hr
  · next hfault =>
      split at hr
      · next hq =>
          split at hr
          · next hc => exact ⟨hq, hc⟩
          · cases hr
      · next hq =>
          -- Where there is something to read, at least one octet is let through.
          have hlength : 0 < wire.inbound.queued.length := List.length_pos_iff.mpr hq
          have hsome : 0 < Wire.allowed wire.faults.read wire.taken.length
              (min limit wire.inbound.queued.length) := by
            unfold Wire.allowed
            unfold Wire.failure? at hfault
            split
            · next f hf =>
                rw [hf] at hfault
                dsimp only at hfault
                split at hfault
                · cases hfault
                · omega
            · omega
          have htake := congrArg Prod.fst (Wire.Attempt.done.inj hr)
          have hzero := congrArg List.length htake
          simp only [List.length_take, List.length_nil] at hzero
          omega

end LinkLayer

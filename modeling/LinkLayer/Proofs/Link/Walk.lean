/-
  LinkLayer.Proofs.Link.Walk
  ──────────────────────────
  **THE STAGES OF A HANDLER, AND WHAT BINDS IT TO AN END.**

  A handler goes through the stages of a link in their order, and to the last
  one from wherever it is.  From some turn on it is bound to an outcome: it
  closes, or leaves after its engine has returned.

    • `Stage.IsWalk` — a beginning of the path, and the last stage after it at
      most once,
    • `Turn.walked` — **every turn goes on with the walk**,
    • `Turn.cause` — what a turn binds the handler to, and why,
    • `Turn.bound` — whoever is bound stays so.
-/
import LinkLayer.Proofs.Link.Entry

namespace LinkLayer

/-! ## §1. Walks. -/

namespace Stage

/-- The stages before the last one, in their order. -/
def path : List Stage := [created, metadataSent, metadataReceived, validated, registered, active]

/-- The path up to a stage. -/
def upTo (s : Stage) : List Stage := path.takeWhile (· ≠ s) ++ [s]

/-- A walk: a beginning of the path, and the last stage after it at most
once. -/
def IsWalk (walk : List Stage) : Prop :=
  ∃ before, before <+: path ∧ (walk = before ∨ walk = before ++ [closed])

variable {s : Stage}

theorem upTo_prefix (h : s ≠ closed) : s.upTo <+: path := by
  cases s with
  | closed => exact absurd rfl h
  | _ => decide

theorem isWalk_upTo (h : s ≠ closed) : IsWalk s.upTo := ⟨s.upTo, upTo_prefix h, .inl rfl⟩

theorem isWalk_closed (h : s ≠ closed) : IsWalk (s.upTo ++ [closed]) :=
  ⟨s.upTo, upTo_prefix h, .inr rfl⟩

end Stage

namespace Handler

variable {node : Node} {wire : Wire} {h h' : Handler} {move : Move} {walk : List Stage}
  {outcome : Outcome}

/-- The stages that a handler reaches on its way to what it is next.  At the
hand-over it reaches two of them. -/
def stagesTo (h h' : Handler) : List Stage :=
  if h'.stage = h.stage then []
  else
    match h.phase with
    | .registered .. => (h.stage.advance .registered).toOption.toList ++ [h'.stage]
    | _ => [h'.stage]

/-- A handler has come to its stage by a walk. -/
inductive Walked (h : Handler) : List Stage → Prop
  | alive : h.stage ≠ .closed → Walked h h.stage.upTo
  | closed {s : Stage} : h.stage = .closed → s ≠ .closed → Walked h (s.upTo ++ [.closed])

theorem Walked.isWalk (hw : h.Walked walk) : Stage.IsWalk walk := by
  cases hw with
  | alive hs => exact Stage.isWalk_upTo hs
  | closed _ hs => exact Stage.isWalk_closed hs

/-- A walk leads to the stage of the handler. -/
theorem Walked.last (hw : h.Walked walk) : walk.getLast? = some h.stage := by
  cases hw with
  | alive => exact List.getLast?_concat
  | closed hs => rw [hs, List.getLast?_concat]

/-- Where the stage is the same, no step is taken. -/
theorem Walked.of_same (hw : h.Walked walk) (hs : h'.stage = h.stage) :
    h'.Walked (walk ++ h.stagesTo h') := by
  rw [stagesTo, if_pos hs, List.append_nil]
  cases hw with
  | alive hne => exact hs ▸ .alive (hs ▸ hne)
  | closed hcl hne => exact .closed (hs.trans hcl) hne

/-- Whoever has not ended is not in the last stage. -/
theorem Staged.stage_ne (hs : h.Staged) (ho : h.outcome? = none) : h.stage ≠ .closed := by
  unfold Staged at hs
  unfold outcome? at ho
  cases hp : h.phase <;> simp_all

/-- **Every turn goes on with the walk.** -/
theorem Turn.walked (ht : Turn node wire h move) (hs : h.Staged) (hw : h.Walked walk) :
    move.handler.Walked (walk ++ h.stagesTo move.handler) := by
  have hopen := hs.stage_ne ht.outcome_none
  have hwalk : walk = h.stage.upTo := by
    cases hw with
    | alive => rfl
    | closed hcl => exact absurd hcl hopen
  -- The next stage is the one that follows on the path.
  have hnext : ∀ {h' : Handler}, h'.stage ≠ .closed →
      h.stage.upTo ++ h.stagesTo h' = h'.stage.upTo → h'.Walked (walk ++ h.stagesTo h') := by
    intro h' hne hup
    rw [hwalk, hup]
    exact .alive hne
  have hlast : ∀ {h' : Handler}, h'.stage = .closed → h.stagesTo h' = [.closed] →
      h'.Walked (walk ++ h.stagesTo h') := by
    intro h' hcl hto
    rw [hwalk, hto]
    exact .closed hcl hopen
  cases ht with
  | flush hp =>
      simp only [Staged, hp] at hs
      exact hnext (by simp) (by simp [stagesTo, hp, hs.1, Stage.upTo, Stage.path])
  | receiveAll hp =>
      simp only [Staged, hp] at hs
      exact hnext (by simp) (by simp [stagesTo, hp, hs.1, Stage.upTo, Stage.path])
  | validate hp =>
      simp only [Staged, hp] at hs
      exact hnext (by simp) (by simp [stagesTo, hp, hs.1, Stage.upTo, Stage.path])
  | handOver hp =>
      simp only [Staged, hp] at hs
      exact hnext (by simp) (by simp [stagesTo, hp, hs.1, Stage.upTo, Stage.path, Stage.advance,
        Stage.next?, Except.toOption])
  | leave hp => exact hlast rfl (by simp [stagesTo, hp, hopen.symm])
  | finish hp => exact hlast rfl (by simp [stagesTo, hp, hopen.symm])
  | _ => exact hw.of_same rfl

/-! ## §2. What a handler is bound to. -/

/-- What a handler is bound to end with, unless it is cancelled before. -/
def bound? (h : Handler) : Option Outcome :=
  match h.phase with
  | .leaving _ result => some (outcomeOf result)
  | .closing _ outcome | .ended outcome => some outcome
  | _ => none

/-- Why a move binds a handler to an outcome. -/
inductive Cause (node : Node) (wire : Wire) (h : Handler) (move : Move) : Outcome → Prop
  | stopped : h.phase = .fresh → node.isStopped = true → Cause node wire h move (.failed .stopped)
  | broken {cause : LinkError} : GivesUp node wire h.phase cause →
      Cause node wire h move (.failed cause)
  | turnedAway {octets : Bytes} {peer : Frame} {outcome : Outcome} :
      h.phase = .received octets → Frame.decode octets = .ok peer →
      Refuses h.link h.settings peer outcome → Cause node wire h move outcome
  | duplicate {peer : Frame} {existing : Handle} : h.phase = .validated peer →
      node.registry.lookup (h.handle peer.identity).key = some existing →
      Cause node wire h move (.duplicate existing)
  | returned {entry : Handle} {session : Engine.Session} {result : Except String Unit} :
      h.phase = .tunnelling entry session → move.handler.phase = .leaving entry result →
      Cause node wire h move (outcomeOf result)
  | collapsed {entry : Handle} {session : Engine.Session} :
      h.phase = .tunnelling entry session → Cause node wire h move .collapsed

/-- **Whoever is bound by a turn has a cause.** -/
theorem Turn.cause (ht : Turn node wire h move) (hb : move.handler.bound? = some outcome)
    (hn : h.bound? ≠ some outcome) : Cause node wire h move outcome := by
  cases ht with
  | refuse hp hs =>
      cases hb
      exact .stopped hp hs
  | giveUp hg =>
      cases hb
      exact .broken hg
  | turnAway hp hd hr =>
      cases hb
      exact .turnedAway hp hd hr
  | findDuplicate hp hl =>
      cases hb
      exact .duplicate hp hl
  | «return» hp =>
      cases hb
      exact .returned hp rfl
  | collapse hp =>
      cases hb
      exact .collapsed hp
  -- Whoever leaves or closes was bound before.
  | leave hp => simp_all [bound?]
  | finish hp => simp_all [bound?]
  | _ => cases hb

/-- **Whoever is bound stays so**, and does not begin to close. -/
theorem Turn.bound (ht : Turn node wire h move) (hb : h.bound? = some outcome) :
    move.handler.phase = .ended outcome := by
  unfold bound? at hb
  cases ht with
  | giveUp hg =>
      generalize h.phase = phase at hg hb
      cases hg <;> cases hb
  | _ => simp_all

theorem bound_of_outcome (ho : h.outcome? = some outcome) : h.bound? = some outcome := by
  rw [bound?, outcome?_eq_some.mp ho]

/-- No link ends with a refused transition or a frame that cannot be read. -/
theorem Over.reachable {l : Link} {n : Nat} {ds : List Deed} {cause : LinkError}
    (ho : Over l n ds (.failed cause)) :
    (∀ e, cause ≠ .stateTransition e) ∧ ∀ e, cause ≠ .decode e := by
  generalize hout : Outcome.failed cause = outcome at ho
  cases ho with
  | rejected hr =>
      cases hr with
      | stopped => cases hout; simp
      | broken he =>
          cases hout
          cases he <;> simp
      | turnedAway _ hrefuses => cases hrefuses <;> cases hout <;> simp
      | duplicate => cases hout
  | @served _ _ _ result _ =>
      cases result with
      | ok => cases hout
      | error reason =>
          cases hout
          simp
  | collapsed => cases hout
  | cancelled => cases hout

end Handler

end LinkLayer

/-
  LinkLayer.Link.Stage
  ────────────────────
  **THE STAGES OF A LINK.**

  A link goes through its stages in one order, and can be closed from every
  stage but the last.  `Stage.advance` refuses every other move.
-/

namespace LinkLayer

/-- How far a link has come. -/
inductive Stage where
  | created
  | metadataSent
  | metadataReceived
  | validated
  | registered
  | active
  | closed
  deriving Repr, DecidableEq

namespace Stage

/-- All stages, in their order. -/
def all : List Stage :=
  [created, metadataSent, metadataReceived, validated, registered, active, closed]

/-- The name of a stage. -/
def name : Stage → String
  | created => "Created"
  | metadataSent => "MetadataSent"
  | metadataReceived => "MetadataReceived"
  | validated => "Validated"
  | registered => "Registered"
  | active => "Active"
  | closed => "Closed"

/-- The stage with a given name. -/
def ofName? (s : String) : Option Stage := all.find? fun stage => stage.name = s

/-- The stage that follows in an undisturbed life. -/
def next? : Stage → Option Stage
  | created => some metadataSent
  | metadataSent => some metadataReceived
  | metadataReceived => some validated
  | validated => some registered
  | registered => some active
  | active => some closed
  | closed => none

/-- A refused move. -/
structure MoveError where
  source : Stage
  target : Stage
  deriving Repr, DecidableEq

/-- The wording of a refused move. -/
def MoveError.message (e : MoveError) : String :=
  s!"invalid link state transition from {e.source.name} to {e.target.name}"

/-- Move to another stage: to the following one, or to the last one. -/
def advance (s t : Stage) : Except MoveError Stage :=
  if s.next? = some t ∨ (s ≠ closed ∧ t = closed) then .ok t else .error ⟨s, t⟩

end Stage

end LinkLayer

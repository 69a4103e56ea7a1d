/-
  LinkLayer.Transport.Timed
  ─────────────────────────
  **OPERATIONS THAT TAKE TIME.**

  An operation comes to a result after a time, or to none at all.  Times are
  in milliseconds and count from the beginning of the operation.

    • `andThen` starts a second operation at the end of the first.
    • `within` sets a deadline: what has not come to a result by then comes
      to another one, at the deadline.  A result at the deadline is in time.
-/

namespace LinkLayer

/-- What becomes of an operation. -/
inductive Timed (α : Type) where
  | after (millis : Nat) (result : α)
  | never
  deriving Repr, DecidableEq

namespace Timed

variable {α β : Type}

/-- An operation that has its result at once. -/
def now (a : α) : Timed α := .after 0 a

/-- The result of an operation, if it comes to one. -/
def result? : Timed α → Option α
  | after _ a => some a
  | never => none

/-- One operation after the other. -/
def andThen : Timed α → (α → Timed β) → Timed β
  | never, _ => never
  | after n a, f =>
      match f a with
      | never => never
      | after k b => after (n + k) b

/-- An operation with a deadline, and the result that it has if that
passes. -/
def within (deadline : Nat) (late : α) : Timed α → Timed α
  | after n a => if n ≤ deadline then after n a else after deadline late
  | never => after deadline late

/-- Whether an operation is over at a time. -/
def isOverBy (t : Nat) : Timed α → Bool
  | after n _ => n ≤ t
  | never => false

/-- With a deadline, an operation is over by then. -/
theorem isOverBy_within (deadline : Nat) (late : α) (x : Timed α) :
    (x.within deadline late).isOverBy deadline = true := by
  cases x with
  | never => simp [within, isOverBy]
  | after n a =>
    by_cases h : n ≤ deadline
    · simp [within, h, isOverBy]
    · simp [within, h, isOverBy]

end Timed

end LinkLayer

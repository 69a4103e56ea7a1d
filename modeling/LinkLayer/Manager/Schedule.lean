/-
  LinkLayer.Manager.Schedule
  ──────────────────────────
  **LETTING TASKS RUN, AND TIME PASS.**

  `settle` lets tasks and listeners move until none can; `pass` moves the
  clock to a later time, by way of every deadline in between.  The number of
  moves is bounded: every move brings a task forward, or takes octets from a
  wire, or puts them on one.
-/
import LinkLayer.Manager.Lifecycle

namespace LinkLayer.Manager

variable {σ : Type}

/-! ## §1. Moves until rest. -/

/-- The first of some moves that is possible. -/
def firstMove (move : Nat → Option (Manager σ)) : List Nat → Option (Manager σ)
  | [] => none
  | n :: rest =>
      match move n with
      | some m => some m
      | none => firstMove move rest

/-- The next move of any listener or task. -/
def step (T : Transport σ) (m : Manager σ) : Option (Manager σ) :=
  match firstMove m.stepInlet m.inlets.numbers with
  | some m => some m
  | none => firstMove (m.stepTask T) m.tasks.numbers

/-- Make moves, at most a number of them. -/
def stepMany (T : Transport σ) : Nat → Manager σ → Manager σ
  | 0, m => m
  | fuel + 1, m =>
      match m.step T with
      | none => m
      | some m => stepMany T fuel m

/-- The moves that a wire allows: each takes an octet from a pipe or puts one
there. -/
def wireMoves (w : Wire) : Nat :=
  3 * w.inbound.queued.length + w.outbound.queued.length + frameLength

/-- More moves than there can be. -/
def moveBound (m : Manager σ) : Nat :=
  let waiting := (m.inlets.values.map (·.queue.length)).foldl (· + ·) 0
  let octets := (m.wires.values.map wireMoves).foldl (· + ·) 0
  64 + octets + 64 * (m.tasks.rows.length + m.wires.rows.length + m.inlets.rows.length + waiting)

/-- Let everything run until nothing can move. -/
def settle (T : Transport σ) (m : Manager σ) : Manager σ := stepMany T m.moveBound m

/-! ## §2. The clock. -/

/-- The deadlines of the tasks that wait. -/
def deadlines (m : Manager σ) : List Nat := m.tasks.values.filterMap Task.due?

/-- The first deadline after now, up to a time. -/
def nextDeadline (m : Manager σ) (limit : Nat) : Option Nat :=
  ((m.deadlines.filter fun due => m.now < due && due ≤ limit).min?)

/-- Set the clock, and let everything run. -/
def setClock (T : Transport σ) (m : Manager σ) (now : Nat) : Manager σ :=
  { m with now }.settle T

/-- Go through at most a number of deadlines. -/
def passDeadlines (T : Transport σ) (limit : Nat) : Nat → Manager σ → Manager σ
  | 0, m => m
  | fuel + 1, m =>
      match m.nextDeadline limit with
      | none => m
      | some due => passDeadlines T limit fuel (m.setClock T due)

/-- The longest time that passes at once, in milliseconds: two years and a
few weeks. -/
def longestPass : Nat := 68719476734

/-- Let time pass, in milliseconds, but no more than `longestPass`.  A link
has three deadlines at most: for sending, for receiving, for closing. -/
def pass (T : Transport σ) (m : Manager σ) (millis : Nat) : Manager σ :=
  let limit := m.now + min millis longestPass
  (passDeadlines T limit (3 * m.tasks.rows.length + 3) m).setClock T limit

end LinkLayer.Manager

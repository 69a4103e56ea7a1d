/-
  LinkLayer.Signal
  ────────────────
  **SIGNALS THAT FIRE ONCE.**

  A signal is fired at most once, and every waiter on it is released, also
  one that starts to wait afterwards.  Several names may stand for one
  signal; a waiter holds on to the signal and not to the name.  A board keeps
  the names, the fired signals and the waiters.
-/
import LinkLayer.Named

namespace LinkLayer

/-! ## §1. The board. -/

/-- Someone who waits for a signal. -/
structure Waiter where
  label : String
  signal : Nat
  isReleased : Bool
  deriving Repr, DecidableEq

/-- Names for signals, which of the signals have fired, and the waiters in
the order in which they came. -/
structure SignalBoard where
  next : Nat := 0
  names : Named Nat := {}
  fired : List Nat := []
  waiters : List Waiter := []
  deriving Repr, DecidableEq

namespace SignalBoard

/-- A board without signals. -/
def empty : SignalBoard := {}

/-- The signal that a name stands for. -/
def find? (b : SignalBoard) (name : String) : Option Nat := b.names.find? name

/-- Let a name stand for a signal, whatever it stood for before. -/
def bind (b : SignalBoard) (name : String) (signal : Nat) : SignalBoard :=
  { b with names := b.names.put name signal }

/-- Release every waiter whose signal has fired. -/
def settle (b : SignalBoard) : SignalBoard :=
  { b with waiters := b.waiters.map fun w =>
      { w with isReleased := w.isReleased || w.signal ∈ b.fired } }

/-! ## §2. Steps. -/

/-- What can be done with signals. -/
inductive Step where
  | new (name : String)
  | clone (name source : String)
  | drop (name : String)
  | same (name other : String)
  | fire (name : String)
  | fired (name : String)
  | wait (name label : String)
  deriving Repr, DecidableEq

/-- What a step answers. -/
inductive Answer where
  | nothing
  | truth (b : Bool)
  | noSuchSignal
  deriving Repr, DecidableEq

/-- Do a step; waiters are not looked at yet. -/
def act (b : SignalBoard) : Step → Answer × SignalBoard
  | .new name => (.nothing, { b.bind name b.next with next := b.next + 1 })
  | .clone name source =>
      match b.find? source with
      | some s => (.nothing, b.bind name s)
      | none => (.noSuchSignal, b)
  | .drop name => (.truth (b.find? name).isSome, { b with names := b.names.erase name })
  | .same name other =>
      match b.find? name, b.find? other with
      | some s, some t => (.truth (s = t), b)
      | _, _ => (.noSuchSignal, b)
  | .fire name =>
      match b.find? name with
      | some s =>
          if s ∈ b.fired then (.truth false, b)
          else (.truth true, { b with fired := s :: b.fired })
      | none => (.noSuchSignal, b)
  | .fired name =>
      match b.find? name with
      | some s => (.truth (s ∈ b.fired), b)
      | none => (.noSuchSignal, b)
  | .wait name label =>
      match b.find? name with
      | some s => (.nothing, { b with waiters := b.waiters ++ [⟨label, s, false⟩] })
      | none => (.noSuchSignal, b)

/-- Do a step and let the waiters see it. -/
def step (b : SignalBoard) (s : Step) : Answer × SignalBoard :=
  let (answer, b') := b.act s
  (answer, b'.settle)

/-- The labels of the waiters that are not released. -/
def waiting (b : SignalBoard) : List String :=
  (b.waiters.filter (!·.isReleased)).map (·.label)

/-- The labels of the waiters that are released. -/
def released (b : SignalBoard) : List String :=
  (b.waiters.filter (·.isReleased)).map (·.label)

end SignalBoard

end LinkLayer

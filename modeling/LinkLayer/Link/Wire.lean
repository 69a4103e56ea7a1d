/-
  LinkLayer.Link.Wire
  ───────────────────
  **WIRES.**

  A wire joins a link to the remote end by two pipes, one for each
  direction.  A pipe holds a bounded number of octets.  It is closed when
  the writing end shuts it down or when either end is dropped; octets that
  were written before stay readable.

    • Writing to a closed pipe fails, to a full one waits, and otherwise
      takes as much as there is room for.
    • Reading from an empty pipe waits, or gives end of file if the pipe is
      closed.

  The end of the link can have faults: reads or writes that fail after a
  number of octets, a flush or a shutdown that fails or never ends.
-/
import LinkLayer.Text.Bytes

namespace LinkLayer

/-! ## §1. Pipes. -/

/-- One direction of a wire. -/
structure Pipe where
  capacity : Nat
  queued : Bytes := []
  closed : Bool := false
  deriving Repr, DecidableEq

namespace Pipe

/-- The number of octets for which there is room. -/
def room (p : Pipe) : Nat := p.capacity - p.queued.length

/-- Append octets. -/
def push (p : Pipe) (bs : Bytes) : Pipe := { p with queued := p.queued ++ bs }

/-- Take away the first octets. -/
def drop (p : Pipe) (n : Nat) : Pipe := { p with queued := p.queued.drop n }

/-- Let no more octets in. -/
def close (p : Pipe) : Pipe := { p with closed := true }

end Pipe

/-! ## §2. Wires and their faults. -/

/-- A failure that comes once a number of octets has passed. -/
structure Fault where
  after : Nat
  reason : String
  deriving Repr, DecidableEq

/-- What is wrong with the link's end of a wire. -/
structure Faults where
  read : Option Fault := none
  write : Option Fault := none
  flush : Option String := none
  shutdown : Option String := none
  flushHangs : Bool := false
  shutdownHangs : Bool := false
  deriving Repr, DecidableEq

/-- A wire: what is on its way, and what was done at the link's end so far,
that is, the octets that were read and written there, and how often an orderly
close was asked for. -/
structure Wire where
  inbound : Pipe
  outbound : Pipe
  faults : Faults := {}
  taken : Bytes := []
  sent : Bytes := []
  closes : Nat := 0
  deriving Repr, DecidableEq

namespace Wire

/-- A new wire whose pipes have a capacity. -/
def new (capacity : Nat) (faults : Faults) : Wire :=
  { inbound := { capacity }, outbound := { capacity }, faults }

/-- All that the remote end has written. -/
def arrived (w : Wire) : Bytes := w.taken ++ w.inbound.queued

/-- The failure that a fault causes after a number of octets. -/
def failure? (fault : Option Fault) (passed : Nat) : Option String :=
  match fault with
  | some f => if f.after ≤ passed then some f.reason else none
  | none => none

/-- The number of octets that a fault lets pass, of those that are wanted. -/
def allowed (fault : Option Fault) (passed wanted : Nat) : Nat :=
  match fault with
  | some f => min wanted (f.after - passed)
  | none => wanted

/-! ## §3. The end of the link. -/

/-- What comes of an attempt at the link's end: it is done, it has to wait,
or it fails. -/
inductive Attempt (α : Type) where
  | done (result : α)
  | wait
  | failed (reason : String)
  deriving Repr, DecidableEq

/-- The wording of a write to a closed pipe. -/
def brokenPipe : String := "broken pipe"

/-- The wording of an end of file inside of what is to be read in full. -/
def earlyEnd : String := "early eof"

/-- Write a first part of some octets; the result is the octets that remain
to be written. -/
def write (w : Wire) (bs : Bytes) : Attempt (Bytes × Wire) :=
  match failure? w.faults.write w.sent.length with
  | some reason => .failed reason
  | none =>
      if w.outbound.closed then .failed brokenPipe
      else if w.outbound.room = 0 then .wait
      else
        let n := allowed w.faults.write w.sent.length (min bs.length w.outbound.room)
        .done (bs.drop n,
          { w with outbound := w.outbound.push (bs.take n), sent := w.sent ++ bs.take n })

/-- Read at most a number of octets; no octets are the end of file. -/
def read (w : Wire) (limit : Nat) : Attempt (Bytes × Wire) :=
  match failure? w.faults.read w.taken.length with
  | some reason => .failed reason
  | none =>
      if w.inbound.queued = [] then
        if w.inbound.closed then .done ([], w) else .wait
      else
        let n := allowed w.faults.read w.taken.length (min limit w.inbound.queued.length)
        let bs := w.inbound.queued.take n
        .done (bs, { w with inbound := w.inbound.drop n, taken := w.taken ++ bs })

/-- See to it that what was written is on its way. -/
def flush (w : Wire) : Attempt Unit :=
  match w.faults.flush with
  | some reason => .failed reason
  | none => if w.faults.flushHangs then .wait else .done ()

/-- Ask for an orderly close, after which no more is written.  The wire that
goes with the answer has it on record that this was asked for, whatever came of
it; as long as the answer is to wait, nothing was done. -/
def shutdown (w : Wire) : Attempt Unit × Wire :=
  let asked := { w with closes := w.closes + 1 }
  match w.faults.shutdown with
  | some reason => (.failed reason, asked)
  | none =>
      if w.faults.shutdownHangs then (.wait, asked)
      else (.done (), { asked with outbound := w.outbound.close })

/-- Give up the wire, at either end. -/
def drop (w : Wire) : Wire :=
  { w with inbound := w.inbound.close, outbound := w.outbound.close }

/-! ## §4. The remote end. -/

/-- What comes of a write by the remote end: how many octets were taken, or
a refusal. -/
def remoteWrite (w : Wire) (bs : Bytes) : Option (Nat × Wire) :=
  if w.inbound.closed then none
  else
    let n := min bs.length w.inbound.room
    some (n, { w with inbound := w.inbound.push (bs.take n) })

/-- Read all that there is, at the remote end. -/
def remoteRead (w : Wire) : Bytes × Wire :=
  (w.outbound.queued, { w with outbound := w.outbound.drop w.outbound.queued.length })

/-- Whether the remote end has read to the end of file. -/
def remoteAtEnd (w : Wire) : Bool := w.outbound.closed && w.outbound.queued = []

/-- Write no more, at the remote end. -/
def remoteShutdown (w : Wire) : Wire := { w with inbound := w.inbound.close }

/-! ## §5. Nothing is lost or invented. -/

/-- Reading moves octets from the pipe to what was taken. -/
theorem arrived_read {w w' : Wire} {limit : Nat} {bs : Bytes}
    (h : w.read limit = .done (bs, w')) : w'.arrived = w.arrived := by
  unfold read at h
  split at h
  · cases h
  · split at h
    · split at h
      · cases h; rfl
      · cases h
    · cases h
      simp [arrived, Pipe.drop]

/-- What was read is appended to what was taken. -/
theorem taken_read {w w' : Wire} {limit : Nat} {bs : Bytes}
    (h : w.read limit = .done (bs, w')) : w'.taken = w.taken ++ bs := by
  unfold read at h
  split at h
  · cases h
  · split at h
    · split at h
      · cases h; simp
      · cases h
    · cases h; rfl

/-- What was written and what remains are the octets that were to be
written. -/
theorem sent_write {w w' : Wire} {bs rest : Bytes}
    (h : w.write bs = .done (rest, w')) : w'.sent ++ rest = w.sent ++ bs := by
  unfold write at h
  split at h
  · cases h
  · split at h
    · cases h
    · split at h
      · cases h
      · cases h; simp

end Wire

end LinkLayer

/-
  LinkLayer.Engine
  ────────────────
  **TUNNEL ENGINES.**

  Once a link is up, its connection belongs to an engine until the engine
  returns.  The engine learns who the peer is and what the link costs, and
  from then on only it reads and writes.  A session is an engine at work on
  one connection; it goes on by single reads and writes, so that others can
  act between any two of them.
-/
import LinkLayer.Link.Wire
import LinkLayer.Notice

namespace LinkLayer

/-! ## §1. Engines. -/

/-- What an engine does with a connection. -/
inductive Engine where
  /-- Read to the end, count the octets and report their number. -/
  | drain
  /-- Return at once. -/
  | leave
  /-- Fail at once. -/
  | refuse (reason : String)
  /-- Break down at once, without returning. -/
  | collapse
  /-- Write back what is read, up to the end. -/
  | echo
  /-- Read to the end, then fail. -/
  | failAtEnd (reason : String)
  /-- Read to the end. -/
  | collect
  deriving Repr, DecidableEq

namespace Engine

/-- The number of octets that an engine asks for in one read. -/
def readLimit : Engine → Nat
  | echo => 256
  | _ => 4096

/-- An engine at work on a connection.  `unsent` is what an echo has still
to write. -/
structure Session where
  engine : Engine
  peer : Identity
  metric : UInt8
  total : Nat := 0
  unsent : Bytes := []
  deriving Repr, DecidableEq

/-- What comes of the next move of a session. -/
inductive Progress where
  | waiting
  | going (session : Session) (wire : Wire)
  | returned (result : Except String Unit) (notices : List Notice)
  | collapsed

/-! ## §2. Sessions. -/

namespace Session

/-- How a session ends at the end of what the peer sends. -/
def atEnd (s : Session) : Progress :=
  match s.engine with
  | .drain => .returned (.ok ()) [.drained s.peer s.total s.metric]
  | .failAtEnd reason => .returned (.error reason) []
  | _ => .returned (.ok ()) []

/-- Take note of octets that were read. -/
def note (s : Session) (bs : Bytes) : Session :=
  { s with total := s.total + bs.length, unsent := if s.engine = .echo then bs else [] }

/-- Read what there is. -/
def readMore (s : Session) (w : Wire) : Progress :=
  match w.read s.engine.readLimit with
  | .wait => .waiting
  | .failed reason => .returned (.error reason) []
  | .done (bs, w') => if bs = [] then s.atEnd else .going (s.note bs) w'

/-- Write what is to be written. -/
def writeMore (s : Session) (w : Wire) : Progress :=
  match w.write s.unsent with
  | .wait => .waiting
  | .failed reason => .returned (.error reason) []
  | .done (rest, w') => .going { s with unsent := rest } w'

/-- The next move of a session. -/
def step (s : Session) (w : Wire) : Progress :=
  match s.engine with
  | .leave => .returned (.ok ()) []
  | .refuse reason => .returned (.error reason) []
  | .collapse => .collapsed
  | _ => if s.unsent = [] then s.readMore w else s.writeMore w

end Session

end Engine

end LinkLayer

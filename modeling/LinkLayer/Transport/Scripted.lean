/-
  LinkLayer.Transport.Scripted
  ────────────────────────────
  **A TRANSPORT THAT FOLLOWS A SCRIPT.**

  It listens everywhere but at the places for which an error is laid down,
  answers every dial with the next result that is laid down for it, and
  stops with the error that is laid down for that.  It does not wait for a
  listener: who finds its queue full is turned away.
-/
import LinkLayer.Transport.Basic

namespace LinkLayer

/-- What a scripted transport answers. -/
structure Script where
  listenErrors : List (String × TransportError) := []
  stopError : Option TransportError := none
  dials : List (Except TransportError Connection) := []

namespace Script

/-- The port that stands for a free one. -/
def freePort : UInt16 := 40000

/-- Where a listener is bound: a request for any port gets the free one. -/
def bound (spec : ListenSpec) : Endpoint :=
  if spec.endpoint.port = 0 then { spec.endpoint with port := freePort } else spec.endpoint

/-- Listen, unless an error is laid down for the text of the place. -/
def listen (spec : ListenSpec) (s : Script) : Reply Script Endpoint :=
  match s.listenErrors.find? (·.1 = spec.text) with
  | some (_, e) => ⟨.error e, s, []⟩
  | none => ⟨.ok (bound spec), s, []⟩

/-- Dial: the next result that is laid down. -/
def dial (_ : DialTarget) (s : Script) : Reply Script Connection :=
  match s.dials with
  | result :: dials => ⟨result, { s with dials }, []⟩
  | [] => ⟨.error (.io "no queued connection"), s, []⟩

/-- Stop. -/
def stop (s : Script) : Reply Script Unit :=
  match s.stopError with
  | some e => ⟨.error e, s, []⟩
  | none => ⟨.ok (), s, []⟩

/-- The number of connections that are kept for a listener until it takes
them. -/
def backlog : Nat := 8

/-- The transport that follows its script. -/
def transport : Transport Script := ⟨listen, dial, stop⟩

/-- Lay down a further result for a dial. -/
def enqueue (s : Script) (result : Except TransportError Connection) : Script :=
  { s with dials := s.dials ++ [result] }

end Script

end LinkLayer

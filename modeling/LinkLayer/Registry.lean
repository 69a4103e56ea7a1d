/-
  LinkLayer.Registry
  ──────────────────
  **THE REGISTRY OF LIVE LINKS.**

  A registry holds at most one link for a key.  Each link that asks to be
  registered brings a handle of its own; two handles with the same contents
  are still two handles, so each has an `id`.  With every handle goes a
  closure signal, which fires when the link leaves the registry.

    • `register` inserts the handle, or returns the one that is there,
    • `deregister` removes the handle if it is the one that is there, and
      fires its signal in any case.
-/
import LinkLayer.Link.Key
import LinkLayer.Text.Basic

namespace LinkLayer

open LinkLayer.Text

/-! ## §1. Handles and the registry. -/

/-- A link that is or was to be registered. -/
structure Handle where
  id : Nat
  name : String
  key : LinkKey
  incoming : Bool
  deriving Repr, DecidableEq

/-- The live links, and the signals that have fired, by handle. -/
structure Registry where
  entries : List Handle := []
  fired : List Nat := []
  deriving Repr, DecidableEq

/-- What became of a registration. -/
inductive Registration where
  | inserted
  | duplicate (existing : Handle)
  deriving Repr, DecidableEq

namespace Registry

/-- A registry without links. -/
def empty : Registry := {}

/-- The link that holds a key. -/
def lookup (r : Registry) (key : LinkKey) : Option Handle := r.entries.find? (·.key = key)

/-- The number of live links. -/
def count (r : Registry) : Nat := r.entries.length

/-- Whether the signal of a handle has fired. -/
def isFired (r : Registry) (id : Nat) : Bool := id ∈ r.fired

/-! ## §2. Changes. -/

/-- Fire the signal of a handle; whether it had not fired before. -/
def fire (r : Registry) (id : Nat) : Bool × Registry :=
  if id ∈ r.fired then (false, r) else (true, { r with fired := id :: r.fired })

/-- Register a link, unless its key is taken. -/
def register (r : Registry) (h : Handle) : Registration × Registry :=
  match r.lookup h.key with
  | some existing => (.duplicate existing, r)
  | none => (.inserted, { r with entries := h :: r.entries })

/-- Whether a handle is the one that holds its key. -/
def holds (r : Registry) (h : Handle) : Bool := (r.lookup h.key).any (·.id = h.id)

/-- Remove a link, if it is the one that holds its key, and fire its
signal.  The answer says whether it was. -/
def deregister (r : Registry) (h : Handle) : Bool × Registry :=
  let kept := if r.holds h then r.entries.filter (·.key ≠ h.key) else r.entries
  (r.holds h, ({ r with entries := kept }.fire h.id).2)

/-! ## §3. Listing. -/

/-- Order of links in a listing: by name, then by key. -/
def handleLE (a b : Handle) : Bool := pairLE (a.name, a.key.text) (b.name, b.key.text)

/-- The live links in the order of their names. -/
def snapshot (r : Registry) : List Handle := r.entries.mergeSort handleLE

end Registry

end LinkLayer

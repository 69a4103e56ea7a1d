/-
  LinkLayer.Domain.Name
  ─────────────────────
  **READING A DOMAIN.**

  A domain is folded, brought into the one way of writing, and cut into its
  labels; compressed labels are read.  The result is a list of labels in
  their folded form.  Empty labels are allowed, also as the only one.
-/
import LinkLayer.Domain.Compressed
import LinkLayer.Domain.Fold
import LinkLayer.Domain.Label
import LinkLayer.Text.Bytes
import LinkLayer.Unicode.Normal

namespace LinkLayer.Domain

open LinkLayer.Text LinkLayer.Unicode

/-! ## §1. Labels as they are written. -/

/-- ASCII characters that no label contains: controls, the blank, and those
that have a meaning of their own in a URI. -/
def isForbidden (c : Char) : Bool :=
  c ≤ ' ' || c = '\x7f'
    || c ∈ ['%', '#', '/', ':', '<', '>', '?', '@', '[', '\\', ']', '^', '|']

/-- Whether a text is a label in its folded form. -/
def isPlain (cs : List Char) : Bool :=
  cs.all (fun c => isFolded c && c ≠ '.') && normalize cs = cs

/-- The label that is written by a folded text. -/
def readLabel? (cs : List Char) : Option (List Char) :=
  match cs with
  | 'x' :: 'n' :: '-' :: '-' :: rest => (decompress? rest).filter isPlain
  | _ => some cs

/-- The label that is written by a folded text, if it is good by itself. -/
def label? (cs : List Char) : Option (List Char) :=
  (readLabel? cs).filter fun label => !label.any isForbidden && isLabel label

/-! ## §2. Domains. -/

/-- Whether the labels of a domain go together: if some character is written
from right to left, each of them keeps its place. -/
def isCoherent (labels : List (List Char)) : Bool :=
  !labels.any goesLeft || labels.all keepsPlace

/-- The labels of the domain that a text stands for. -/
def labels? (cs : List Char) : Option (List (List Char)) :=
  match foldAll cs with
  | none => none
  | some folded => ((splitAt '.' (normalize folded)).mapM label?).filter isCoherent

/-- The labels of the domain that octets stand for. -/
def read? (bs : Bytes) : Option (List (List Char)) := (utf8Decode? bs).bind labels?

end LinkLayer.Domain

/-
  LinkLayer.Toml.Item
  ───────────────────
  **WHAT A TOML DOCUMENT HOLDS.**

  A document is a tree of tables.  A table knows how it came to be, since
  that decides what may be added to it later:

    • `headed`: by a header of its own,
    • `implied`: as the parent of a table with a header; a header may follow,
    • `dotted`: by a key with dots; such keys may add to it, a header may not,
    • `inline`: by a value in braces; it is complete.

  An array of tables is open at its last table.
-/

namespace LinkLayer.Toml

/-! ## §1. Items. -/

/-- How a table came to be. -/
inductive Origin where
  | headed
  | implied
  | dotted
  | inline
  deriving Repr, DecidableEq

/-- What a key stands for.  Of fractional numbers and of dates and times only
the kind is kept. -/
inductive Item where
  | text (s : String)
  | integer (n : Int)
  | fraction
  | boolean (b : Bool)
  | moment
  | array (items : List Item)
  | table (origin : Origin) (entries : List (String × Item))
  | tables (closed : List (List (String × Item))) (last : List (String × Item))

/-- The keys of a table with what they stand for. -/
abbrev Entries : Type := List (String × Item)

namespace Entries

/-- What a key stands for. -/
def find? (entries : Entries) (key : String) : Option Item :=
  (List.find? (·.1 = key) entries).map (·.2)

/-- Let a key stand for an item, whatever it stood for before. -/
def put (entries : Entries) (key : String) (item : Item) : Entries :=
  entries.filter (·.1 ≠ key) ++ [(key, item)]

/-! ## §2. Going down into tables. -/

/-- How a table on a path comes to be if it is missing. -/
def missing (byDots : Bool) : Origin := if byDots then .dotted else .implied

/-- Whether a path may lead through a table.  Dots do not lead into a table
with a header, and nothing leads into an inline table. -/
def isOpen (byDots : Bool) : Origin → Bool
  | .inline => false
  | .headed => !byDots
  | _ => true

/-- Change the table at the end of a path.  Tables that are missing are made.
The change sees how the table came to be. -/
def descend (byDots : Bool) (change : Origin → Entries → Option Entries) :
    List String → Origin → Entries → Option Entries
  | [], origin, entries => change origin entries
  | key :: path, _, entries =>
      match entries.find? key with
      | none =>
          (descend byDots change path (missing byDots) []).map fun sub =>
            entries.put key (.table (missing byDots) sub)
      | some (.table origin sub) =>
          if isOpen byDots origin then
            (descend byDots change path origin sub).map fun sub =>
              entries.put key (.table origin sub)
          else none
      | some (.tables closed last) =>
          (descend byDots change path .headed last).map fun last =>
            entries.put key (.tables closed last)
      | some _ => none

/-- Add a key to a table that was reached by a path of dots.  The key has to
be new; a path that is not empty has to end at a table that dots have
made. -/
def addKey (dots : List String) (key : String) (item : Item) (origin : Origin)
    (entries : Entries) : Option Entries :=
  if (origin = .dotted) = (dots = []) then none
  else
    match entries.find? key with
    | some _ => none
    | none => some (entries.put key item)

/-- Add a key with dots before it to a table. -/
def assign (dots : List String) (key : String) (item : Item) (origin : Origin)
    (entries : Entries) : Option Entries :=
  entries.descend true (addKey dots key item) dots origin

/-! ## §3. Headers. -/

/-- Give a table a header of its own. -/
def addHeader (key : String) (_ : Origin) (entries : Entries) : Option Entries :=
  match entries.find? key with
  | none => some (entries.put key (.table .headed []))
  | some (.table .implied sub) => some (entries.put key (.table .headed sub))
  | some _ => none

/-- Open a further table of an array of tables. -/
def addTable (key : String) (_ : Origin) (entries : Entries) : Option Entries :=
  match entries.find? key with
  | none => some (entries.put key (.tables [] []))
  | some (.tables closed last) => some (entries.put key (.tables (closed ++ [last]) []))
  | some _ => none

end Entries

end LinkLayer.Toml

/-
  LinkLayer.Toml.Document
  ───────────────────────
  **TOML DOCUMENTS.**

  A document is a sequence of statements, one a line: keys with values, and
  headers of tables, which say where the keys behind them belong.  `parse`
  returns the entries of the root table, or `none` for a document that is
  malformed anywhere.
-/
import LinkLayer.Toml.Value

namespace LinkLayer.Toml

/-! ## §1. Statements. -/

/-- The root table of what was read, and the path of the header that is in
force. -/
structure Draft where
  root : Entries := []
  header : List String := []

namespace Draft

/-- Change the table at a path of names in headers. -/
def within (d : Draft) (path : List String) (change : Origin → Entries → Option Entries) :
    Option Entries :=
  d.root.descend false change path .headed

/-- Add a key below the header that is in force. -/
def assign (d : Draft) (dots : List String) (last : String) (item : Item) : Option Draft :=
  (d.within d.header fun origin entries => entries.assign dots last item origin).map
    fun root => { d with root }

/-- Begin a table. -/
def beginTable (d : Draft) (dots : List String) (last : String) : Option Draft :=
  (d.within dots (Entries.addHeader last)).map fun root => ⟨root, dots ++ [last]⟩

/-- Begin a further table of an array of tables. -/
def beginArrayTable (d : Draft) (dots : List String) (last : String) : Option Draft :=
  (d.within dots (Entries.addTable last)).map fun root => ⟨root, dots ++ [last]⟩

end Draft

/-- A statement and the end of its line. -/
def statement (d : Draft) (cs : List Char) : Option (Draft × List Char) :=
  match cs with
  | '[' :: '[' :: rest =>
      match key rest with
      | some ((dots, last), ']' :: ']' :: rest) => do
          return (← d.beginArrayTable dots last, ← statementEnd? rest)
      | _ => none
  | '[' :: rest =>
      match key rest with
      | some ((dots, last), ']' :: rest) => do
          return (← d.beginTable dots last, ← statementEnd? rest)
      | _ => none
  | _ =>
      match keyValue (value (depthBound - 1)) cs with
      | some (((dots, last), item), rest) => do
          return (← d.assign dots last item, ← statementEnd? rest)
      | none => none

/-! ## §2. Documents. -/

/-- The statements of a document, in at most a number of lines. -/
def statements : Nat → Draft → List Char → Option Draft
  | 0, _, _ => none
  | fuel + 1, d, cs =>
      match skipBlanks cs with
      | [] => some d
      | '#' :: rest => (lineEnd? (rest.dropWhile isPrintable)).bind (statements fuel d)
      | cs =>
          match newline? cs with
          | some rest => statements fuel d rest
          | none => (statement d cs).bind fun p => statements fuel p.1 p.2

/-- The mark with which a document may begin. -/
def byteOrderMark : Char := '\uFEFF'

/-- The root table of a document. -/
def parse (s : String) : Option Entries :=
  let cs := match s.toList with
    | c :: rest => if c = byteOrderMark then rest else c :: rest
    | [] => []
  (statements (cs.length + 1) {} cs).map (·.root)

end LinkLayer.Toml

/-
  LinkLayer.Toml.Value
  ────────────────────
  **KEYS AND VALUES.**

  A key is one name or several with dots between them.  A value is a text, a
  number, a date or time, a truth value, an array or an inline table.
  Arrays may go on over several lines and end with a comma, inline tables
  may not.  Arrays and inline tables lie inside of each other up to a fixed
  depth.
-/
import LinkLayer.Toml.Moment
import LinkLayer.Toml.Number
import LinkLayer.Toml.Quoted

namespace LinkLayer.Toml

/-! ## §1. Keys. -/

/-- Keys with this number of parts are too long, and values with this number
of brackets around them too deep. -/
def depthBound : Nat := 80

/-- One name of a key. -/
def simpleKey : Scan String := fun cs =>
  match cs with
  | '"' :: _ | '\'' :: _ => (shortText cs).map fun p => (String.ofList p.1, p.2)
  | _ =>
      let name := cs.takeWhile isKeyChar
      if name = [] then none else some (String.ofList name, cs.dropWhile isKeyChar)

/-- The names of a key, at most a number of them, with blanks around each. -/
def keyParts : Nat → Scan (List String)
  | 0, _ => none
  | fuel + 1, cs =>
      match simpleKey (skipBlanks cs) with
      | none => none
      | some (name, rest) =>
          match skipBlanks rest with
          | '.' :: rest => (keyParts fuel rest).map fun p => (name :: p.1, p.2)
          | rest => some ([name], rest)

/-- A key: the names before its last dot, and its last name. -/
def key : Scan (List String × String) := fun cs =>
  match keyParts (depthBound - 1) cs with
  | none => none
  | some (names, rest) => names.getLast?.map fun last => ((names.dropLast, last), rest)

/-! ## §2. Arrays and inline tables. -/

/-- The rest of an array, with at most a number of values. -/
def arrayRest (value : Scan Item) : Nat → Scan (List Item)
  | 0, _ => none
  | fuel + 1, cs =>
      match skipLines cs with
      | none => none
      | some (']' :: rest) => some ([], rest)
      | some cs =>
          match value cs with
          | none => none
          | some (item, rest) =>
              match skipLines rest with
              | some (',' :: rest) =>
                  (arrayRest value fuel rest).map fun p => (item :: p.1, p.2)
              | some (']' :: rest) => some ([item], rest)
              | _ => none

/-- A key, an equals sign and a value. -/
def keyValue (value : Scan Item) : Scan ((List String × String) × Item) := fun cs =>
  match key cs with
  | none => none
  | some (k, '=' :: rest) => (value (skipBlanks rest)).map fun p => ((k, p.1), p.2)
  | some _ => none

/-- The rest of an inline table that has a first key, with at most a number of
keys. -/
def inlineRest (value : Scan Item) : Nat → Entries → Scan Entries
  | 0, _, _ => none
  | fuel + 1, entries, cs =>
      match keyValue value cs with
      | none => none
      | some (((dots, last), item), rest) =>
          match entries.assign dots last item .inline with
          | none => none
          | some entries =>
              match skipBlanks rest with
              | ',' :: rest => inlineRest value fuel entries rest
              | '}' :: rest => some (entries, rest)
              | _ => none

/-- The rest of an inline table. -/
def inlineTable (value : Scan Item) : Scan Entries := fun cs =>
  match skipBlanks cs with
  | '}' :: rest => some ([], rest)
  | cs => inlineRest value (cs.length + 1) [] cs

/-! ## §3. Values. -/

/-- A text as an item. -/
def textItem (p : List Char × List Char) : Item × List Char := (.text (String.ofList p.1), p.2)

/-- A date, a time or a number. -/
def momentOrNumber : Scan Item := fun cs =>
  match moment? cs with
  | some result => result
  | none => number cs

/-- A value that lies inside of no more than some brackets. -/
def value : Nat → Scan Item
  | depth, cs =>
      match cs with
      | '"' :: _ | '\'' :: _ => (quotedText cs).map textItem
      | '[' :: rest =>
          match depth with
          | 0 => none
          | depth + 1 =>
              (arrayRest (value depth) (rest.length + 1) rest).map fun p => (.array p.1, p.2)
      | '{' :: rest =>
          match depth with
          | 0 => none
          | depth + 1 =>
              (inlineTable (value depth) rest).map fun p => (.table .inline p.1, p.2)
      | 't' :: 'r' :: 'u' :: 'e' :: rest => some (.boolean true, rest)
      | 'f' :: 'a' :: 'l' :: 's' :: 'e' :: rest => some (.boolean false, rest)
      | _ => momentOrNumber cs

end LinkLayer.Toml

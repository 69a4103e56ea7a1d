/-
  LinkLayer.Toml.Scan
  ───────────────────
  **CHARACTERS, BLANKS AND COMMENTS OF TOML.**

  A scan reads a first part of some characters and leaves the rest; it is
  `none` where the document is malformed, and then the whole document is.
  Lines end with a line feed, before which there may be a carriage return.
-/
import LinkLayer.Text.Numeral

namespace LinkLayer.Toml

/-- What reads a first part of some characters. -/
abbrev Scan (α : Type) : Type := List Char → Option (α × List Char)

/-! ## §1. Characters. -/

/-- A blank inside of a line. -/
def isBlank (c : Char) : Bool := c = ' ' || c = '\t'

/-- A character of a text: everything but control characters, though tabs are
allowed. -/
def isPrintable (c : Char) : Bool :=
  c = '\t' || (0x20 ≤ c.toNat && c.toNat ≠ 0x7F)

/-- A character of a bare key. -/
def isKeyChar (c : Char) : Bool :=
  Text.isLetter c || Text.isDigit c || c = '-' || c = '_'

/-! ## §2. What lies between. -/

/-- Leave out blanks. -/
def skipBlanks (cs : List Char) : List Char := cs.dropWhile isBlank

/-- What follows the end of a line, if the characters begin with one. -/
def newline? : List Char → Option (List Char)
  | '\n' :: rest => some rest
  | '\r' :: '\n' :: rest => some rest
  | _ => none

/-- What follows a comment, if the characters begin with one. -/
def skipComment : List Char → List Char
  | '#' :: rest => rest.dropWhile isPrintable
  | cs => cs

/-- What follows the end of a line, which the end of the document is too. -/
def lineEnd? (cs : List Char) : Option (List Char) :=
  if cs = [] then some [] else newline? cs

/-- What follows the blanks, the comment and the end of the line behind a
statement. -/
def statementEnd? (cs : List Char) : Option (List Char) :=
  lineEnd? (skipComment (skipBlanks cs))

/-- Leave out blanks, comments and ends of lines, in at most a number of
lines. -/
def skipLinesIn : Nat → List Char → Option (List Char)
  | 0, cs => some cs
  | fuel + 1, cs =>
      match skipBlanks cs with
      | '#' :: rest => (newline? (rest.dropWhile isPrintable)).bind (skipLinesIn fuel)
      | cs =>
          match newline? cs with
          | some rest => skipLinesIn fuel rest
          | none => some cs

/-- Leave out blanks, comments and ends of lines; a comment has to end with
its line. -/
def skipLines (cs : List Char) : Option (List Char) := skipLinesIn (cs.length + 1) cs

end LinkLayer.Toml

/-
  LinkLayer.Toml.Quoted
  ─────────────────────
  **TEXTS IN QUOTES.**

  A text is basic, in double quotes, with escapes; or literal, in single
  quotes, without.  Three quotes instead of one let it go on over several
  lines; a line end directly behind them is not part of it, and one or two
  quotes directly before the closing three are.  In a basic text of several
  lines, a backslash at the end of a line takes away the white space up to
  the next character.
-/
import LinkLayer.Toml.Scan

namespace LinkLayer.Toml

/-! ## §1. Escapes. -/

/-- The character that an escape with one letter stands for. -/
def escaped? : Char → Option Char
  | 'b' => some '\x08'
  | 'f' => some '\x0c'
  | 'n' => some '\n'
  | 'r' => some '\r'
  | 't' => some '\t'
  | '\\' => some '\\'
  | '"' => some '"'
  | _ => none

/-- The character with a hexadecimal number; halves of surrogate pairs are
none. -/
def scalar? (digits : List Char) : Option Char :=
  match Text.hexadecimal? digits with
  | some n => if h : n.isValidChar then some (Char.ofNatAux n h) else none
  | none => none

/-- Put a character before what was read. -/
def before (c : Char) : Option (List Char × List Char) → Option (List Char × List Char)
  | some (cs, rest) => some (c :: cs, rest)
  | none => none

/-- Put a character before what was read, if there is one. -/
def beforeSome (c : Option Char) (r : Option (List Char × List Char)) :
    Option (List Char × List Char) :=
  match c with
  | some c => before c r
  | none => none

/-! ## §2. Texts on one line. -/

/-- The rest of a basic text. -/
def basicRest : Scan (List Char)
  | '"' :: rest => some ([], rest)
  | '\\' :: 'u' :: a :: b :: c :: d :: rest => beforeSome (scalar? [a, b, c, d]) (basicRest rest)
  | '\\' :: 'U' :: a :: b :: c :: d :: e :: f :: g :: h :: rest =>
      beforeSome (scalar? [a, b, c, d, e, f, g, h]) (basicRest rest)
  | '\\' :: c :: rest => beforeSome (escaped? c) (basicRest rest)
  | c :: rest => if isPrintable c && c ≠ '\\' then before c (basicRest rest) else none
  | [] => none

/-- The rest of a literal text. -/
def literalRest : Scan (List Char)
  | '\'' :: rest => some ([], rest)
  | c :: rest => if isPrintable c then before c (literalRest rest) else none
  | [] => none

/-! ## §3. Texts on several lines. -/

/-- The end of a text on several lines, behind its three quotes: up to two
further ones are its last characters. -/
def closing (quote : Char) : List Char → List Char × List Char
  | a :: b :: rest =>
      if a = quote then
        if b = quote then ([a, b], rest) else ([a], b :: rest)
      else ([], a :: b :: rest)
  | [a] => if a = quote then ([a], []) else ([], [a])
  | [] => ([], [])

/-- Whether only blanks are left on a line. -/
def isLineOver (cs : List Char) : Bool := (newline? (skipBlanks cs)).isSome

/-- The rest of a basic text on several lines.  While `skipping`, white space
is left out. -/
def longBasicRest : Bool → Scan (List Char)
  | _, '"' :: '"' :: '"' :: rest => some (closing '"' rest)
  | _, '"' :: rest => before '"' (longBasicRest false rest)
  | skipping, '\r' :: '\n' :: rest =>
      if skipping then longBasicRest true rest else before '\n' (longBasicRest false rest)
  | skipping, '\n' :: rest =>
      if skipping then longBasicRest true rest else before '\n' (longBasicRest false rest)
  | _, '\\' :: 'u' :: a :: b :: c :: d :: rest =>
      beforeSome (scalar? [a, b, c, d]) (longBasicRest false rest)
  | _, '\\' :: 'U' :: a :: b :: c :: d :: e :: f :: g :: h :: rest =>
      beforeSome (scalar? [a, b, c, d, e, f, g, h]) (longBasicRest false rest)
  | _, '\\' :: c :: rest =>
      if isLineOver (c :: rest) then longBasicRest true (c :: rest)
      else beforeSome (escaped? c) (longBasicRest false rest)
  | skipping, c :: rest =>
      if skipping && isBlank c then longBasicRest true rest
      else if isPrintable c && c ≠ '\\' then before c (longBasicRest false rest)
      else none
  | _, [] => none

/-- The rest of a literal text on several lines. -/
def longLiteralRest : Scan (List Char)
  | '\'' :: '\'' :: '\'' :: rest => some (closing '\'' rest)
  | '\r' :: '\n' :: rest => before '\n' (longLiteralRest rest)
  | '\n' :: rest => before '\n' (longLiteralRest rest)
  | c :: rest => if isPrintable c then before c (longLiteralRest rest) else none
  | [] => none

/-- Leave out the line end with which a text on several lines may begin. -/
def skipFirstLineEnd (cs : List Char) : List Char := (newline? cs).getD cs

/-! ## §4. Texts. -/

/-- A text on one line, as keys are quoted. -/
def shortText : Scan (List Char)
  | '"' :: rest => basicRest rest
  | '\'' :: rest => literalRest rest
  | _ => none

/-- A text of any of the four forms. -/
def quotedText : Scan (List Char)
  | '"' :: '"' :: '"' :: rest => longBasicRest false (skipFirstLineEnd rest)
  | '\'' :: '\'' :: '\'' :: rest => longLiteralRest (skipFirstLineEnd rest)
  | cs => shortText cs

end LinkLayer.Toml

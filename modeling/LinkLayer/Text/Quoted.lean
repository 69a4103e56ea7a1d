/-
  LinkLayer.Text.Quoted
  ─────────────────────
  **QUOTED TEXT IN MESSAGES.**

  A text that stands inside a message is put between quotation marks, with

    • a backslash before a backslash and before the mark that delimits it,
    • the short forms for NUL, tab, line feed and carriage return,
    • the code point in braces for every other character that would not be
      visible as itself (`isPrintable`): it has no shape of its own, or
      attaches to the character before it, or is a filler.
-/
import LinkLayer.Unicode.Mark
import LinkLayer.Unicode.Unprintable

namespace LinkLayer.Text

open LinkLayer.Unicode

/-! ## §1. Lowercase hexadecimal numerals. -/

/-- The lowercase hexadecimal digit of a value below sixteen. -/
def hexDigit (n : Nat) : Char :=
  if n < 10 then Char.ofNat (48 + n) else Char.ofNat (87 + n)

/-- The hexadecimal numeral of a number, without leading zeros. -/
def hexNumeral (n : Nat) : List Char := Nat.toDigits 16 n

/-! ## §2. Escapes. -/

/-- A character that a quoted text shows as itself. -/
def isPrintable (c : Char) : Bool := !unprintable.has c && !fillers.has c && !isAttaching c

/-- Open brace, as it is written in an escape. -/
def openBrace : Char := '\x7b'

/-- Close brace, as it is written in an escape. -/
def closeBrace : Char := '\x7d'

/-- A character inside quotation marks `mark`. -/
def escapeIn (mark : Char) (c : Char) : List Char :=
  if c = '\x00' then ['\\', '0']
  else if c = '\t' then ['\\', 't']
  else if c = '\n' then ['\\', 'n']
  else if c = '\r' then ['\\', 'r']
  else if c = '\\' then ['\\', '\\']
  else if c = mark then ['\\', c]
  else if isPrintable c then [c]
  else ['\\', 'u', openBrace] ++ hexNumeral c.toNat ++ [closeBrace]

/-- A text between double quotation marks. -/
def quote (s : String) : String :=
  String.ofList ('"' :: s.toList.flatMap (escapeIn '"') ++ ['"'])

/-- A character between single quotation marks. -/
def quoteChar (c : Char) : String :=
  String.ofList ('\'' :: escapeIn '\'' c ++ ['\''])

end LinkLayer.Text

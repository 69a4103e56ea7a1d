/-
  LinkLayer.Domain.Fold
  ─────────────────────
  **ONE SPELLING FOR ALL.**

  Domains that only differ in case, in style or in invisible characters are
  the same domain.  So each character is replaced before all else: a capital
  by the small letter, a styled form by the plain one, a sign by the letters
  that it stands for, and some characters by nothing.  What neither is
  replaced nor may stand as it is makes a domain bad.
-/
import LinkLayer.Domain.IdeographTable
import LinkLayer.Domain.ShiftTable
import LinkLayer.Domain.SpellingTable
import LinkLayer.Text.Numeral
import LinkLayer.Unicode.Unprintable

namespace LinkLayer.Domain

open LinkLayer.Text LinkLayer.Unicode

/-! ## §1. Characters that vanish, and characters that are barred. -/

/-- Characters that vanish: soft hyphens, fillers, variation selectors. -/
def vanishing : RangeTable := [
  (0xAD, 0xAD), (0x34F, 0x34F), (0x115F, 0x1160), (0x17B4, 0x17B5), (0x180B, 0x180F),
  (0x200B, 0x200B), (0x2060, 0x2064), (0x206A, 0x206F), (0x3164, 0x3164), (0xFE00, 0xFE0F),
  (0xFEFF, 0xFEFF), (0xFFA0, 0xFFA0), (0x1BCA0, 0x1BCA3), (0x1D173, 0x1D17A), (0xE0100, 0xE01EF)]

/-- Characters with a shape that no domain contains: those whose plain form
has a full stop, descriptions of ideographs, and replacement characters. -/
def barred : RangeTable := [
  (0x2024, 0x2026), (0x2488, 0x249B), (0x2FF0, 0x2FFF), (0x31EF, 0x31EF), (0x33C2, 0x33C2),
  (0x33C7, 0x33C7), (0x33D8, 0x33D8), (0xFE12, 0xFE12), (0xFE19, 0xFE19), (0xFE30, 0xFE30),
  (0xFE52, 0xFE52), (0xFFFC, 0xFFFD), (0x1F100, 0x1F100)]

/-- The two characters that keep letters from joining, or make them join. -/
def isJoiner (c : Char) : Bool := c = '\u200C' || c = '\u200D'

/-! ## §2. Folding. -/

/-- The spelling of a code point in a table of spellings. -/
def spelledIn (table : List (Nat × List (List Nat))) (n : Nat) : Option (List Nat) :=
  table.findSome? fun row => if row.1 ≤ n then row.2[n - row.1]? else none

/-- The code points that stand for one that has another spelling. -/
def spelling? (n : Nat) : Option (List Nat) :=
  match shifts.findSome? (·.image? n) with
  | some target => some [target]
  | none =>
      ((spelledIn letterSpellings n).or (spelledIn formSpellings n)).or
        (spelledIn ideographSpellings n)

/-- What stands for a character in a domain, if anything may. -/
def fold (c : Char) : Option (List Char) :=
  if c < '\x80' then some [lowerLetter c]
  else if vanishing.has c then some []
  else
    match spelling? c.toNat with
    | some points => some (points.map Char.ofNat)
    | none => if (unprintable.has c && !isJoiner c) || barred.has c then none else some [c]

/-- What stands for a text in a domain. -/
def foldAll (cs : List Char) : Option (List Char) := (cs.mapM fold).map List.flatten

/-- Whether a character stands for itself. -/
def isFolded (c : Char) : Bool := fold c = some [c]

end LinkLayer.Domain

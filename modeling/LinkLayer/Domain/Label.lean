/-
  LinkLayer.Domain.Label
  ──────────────────────
  **LABELS.**

  The labels of a domain are the parts between its full stops.  A label is
  given in its folded form, with all of its characters as themselves.

    • It does not begin with a mark, which would belong to the full stop.
    • A joiner stands where it shows: after a sign that takes away a vowel;
      or, if it keeps letters apart, between letters that would join.
    • In a text that is written from right to left, digits and neutral
      characters stand where they do not change places with those of other
      labels.
-/
import LinkLayer.Unicode.CombiningClass
import LinkLayer.Unicode.Direction
import LinkLayer.Unicode.Joining

namespace LinkLayer.Domain

open LinkLayer.Unicode

/-! ## §1. Joiners. -/

/-- Whether the first character that letters do not join across joins. -/
def joinsFirst (joins : Char → Bool) (cs : List Char) : Bool :=
  (cs.dropWhile fun c => isTransparent c && !joins c).head?.any joins

/-- Whether a character may stand between what is before it, nearest first,
and what is after it, as far as joiners go. -/
def isJoinerAllowed (before : List Char) (c : Char) (after : List Char) : Bool :=
  if c = '\u200C' then
    before.head?.any isVirama || (joinsFirst joinsNext before && joinsFirst joinsPrevious after)
  else if c = '\u200D' then before.head?.any isVirama
  else true

/-- Whether every joiner of a label shows; `before` is what precedes, nearest
first. -/
def areJoinersAllowed (before : List Char) : List Char → Bool
  | [] => true
  | c :: rest => isJoinerAllowed before c rest && areJoinersAllowed (c :: before) rest

/-! ## §2. Labels by themselves. -/

/-- The number of characters of the longest label that is not in ASCII. -/
def lengthBound : Nat := 1000

/-- Whether a label is good by itself. -/
def isLabel (cs : List Char) : Bool :=
  !cs.head?.any isMark && areJoinersAllowed [] cs
    && (cs.length ≤ lengthBound || cs.all (· < '\x80'))

/-! ## §3. Labels from right to left. -/

/-- Whether some character of a label is written from right to left. -/
def goesLeft (cs : List Char) : Bool :=
  cs.any fun c => direction c = .rightToLeft || direction c = .arabicNumber

/-- Whether the directions after the first letter are good in a label from
left to right.  The last one that is not attached is that of a letter or
digit. -/
def isRightward (ds : List Direction) : Bool :=
  let last := (ds.reverse.dropWhile (· = .attached)).head?
  last.all (fun d => d = .leftToRight || d = .europeanNumber)
    && ds.all fun d => d ≠ .rightToLeft && d ≠ .arabicNumber

/-- Whether the directions after the first letter are good in a label from
right to left: digits are of one sort. -/
def isLeftward (ds : List Direction) : Bool :=
  let last := (ds.reverse.dropWhile (· = .attached)).head?
  last.all (fun d => d = .rightToLeft || d = .europeanNumber || d = .arabicNumber)
    && ds.all (· ≠ .leftToRight)
    && !(ds.contains .europeanNumber && ds.contains .arabicNumber)

/-- Whether a label keeps its place among labels of either direction. -/
def keepsPlace (cs : List Char) : Bool :=
  match cs.map direction with
  | [] => true
  | .leftToRight :: ds => isRightward ds
  | .rightToLeft :: ds => isLeftward ds
  | _ => false

end LinkLayer.Domain

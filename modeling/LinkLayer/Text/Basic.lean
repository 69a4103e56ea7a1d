/-
  LinkLayer.Text.Basic
  ────────────────────
  **TEXTS AND LISTS OF TEXTS.**

    • `trim` takes the white space off both ends of a text: the twenty-five
      characters with the Unicode property White_Space.
    • `occurs` looks for a text inside of another one.
    • `firsts` is a set whose order shows: the list of first occurrences.
    • `sortTexts` orders texts by code point, which is the order of their
      UTF-8 octets.
-/

namespace LinkLayer.Text

/-! ## §1. White space. -/

/-- A character with the property White_Space. -/
def isBlank (c : Char) : Bool :=
  let n := c.toNat
  (9 ≤ n && n ≤ 13) || n = 0x20 || n = 0x85 || n = 0xA0 || n = 0x1680
    || (0x2000 ≤ n && n ≤ 0x200A) || n = 0x2028 || n = 0x2029 || n = 0x202F
    || n = 0x205F || n = 0x3000

/-- What is left of a list when the elements satisfying `p` are taken off
its end. -/
def dropEndWhile {α : Type} (p : α → Bool) (l : List α) : List α :=
  (l.reverse.dropWhile p).reverse

/-- What is left of a list when the elements satisfying `p` are taken off
both ends. -/
def trimWhile {α : Type} (p : α → Bool) (l : List α) : List α :=
  dropEndWhile p (l.dropWhile p)

/-- A text without the white space at its ends. -/
def trim (s : String) : String := String.ofList (trimWhile isBlank s.toList)

/-! ## §2. Texts inside of texts. -/

/-- Whether a list of characters occurs in another one. -/
def occursIn (part : List Char) : List Char → Bool
  | [] => part.isEmpty
  | c :: cs => part.isPrefixOf (c :: cs) || occursIn part cs

/-- Whether a text occurs in another one. -/
def occurs (part text : String) : Bool := occursIn part.toList text.toList

/-- What is left of a list of characters behind one that it begins with. -/
def behind? : List Char → List Char → Option (List Char)
  | [], cs => some cs
  | x :: xs, c :: cs => if x = c then behind? xs cs else none
  | _ :: _, [] => none

/-! ## §3. Lists without repeats. -/

/-- Add an element at the end, if it is not there yet. -/
def insertNew {α : Type} [DecidableEq α] (xs : List α) (x : α) : List α :=
  if x ∈ xs then xs else xs ++ [x]

/-- The first occurrences in a list, in their order. -/
def firsts {α : Type} [DecidableEq α] (xs : List α) : List α := xs.foldl insertNew []

/-! ## §4. Sorted lists. -/

/-- Order of texts by code point. -/
def textLE (a b : String) : Bool := a ≤ b

/-- A list of texts in their order. -/
def sortTexts (xs : List String) : List String := xs.mergeSort textLE

/-- Order of pairs of texts: the first parts decide, then the second ones. -/
def pairLE (a b : String × String) : Bool :=
  if a.1 = b.1 then textLE a.2 b.2 else textLE a.1 b.1

end LinkLayer.Text

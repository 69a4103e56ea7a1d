/-
  LinkLayer.Unicode.Normal
  ────────────────────────
  **COMPOSED TEXT.**

  Many texts can be written in several ways: a letter with an accent is one
  character or two, and marks of different classes may come in any order.
  `normalize` chooses one of them, in three steps:

    • `decompose` replaces composites by their parts,
    • `order` sorts the marks after a base by their classes,
    • `compose` joins a base with the marks that it has a composite with.

  The table of composites has none that a composed text does not contain, so
  characters that only decompose are left alone.
-/
import LinkLayer.Unicode.CombiningClass
import LinkLayer.Unicode.Composite

namespace LinkLayer.Unicode

/-! ## §1. Syllables of Hangul. -/

/-- The code points before the first of the letters that begin a syllable,
stand in its middle, and end it. -/
def leadBase : Nat := 0x1100
def vowelBase : Nat := 0x1161
def tailBase : Nat := 0x11A7

/-- The numbers of those letters; no letter at the end counts as one. -/
def leadCount : Nat := 19
def vowelCount : Nat := 21
def tailCount : Nat := 28

/-- The first syllable. -/
def syllableBase : Nat := 0xAC00

/-- The number of a syllable among all of them. -/
def syllableNumber? (n : Nat) : Option Nat :=
  if syllableBase ≤ n ∧ n < syllableBase + leadCount * vowelCount * tailCount then
    some (n - syllableBase)
  else none

/-- The letters of a syllable. -/
def letters? (n : Nat) : Option (List Nat) :=
  (syllableNumber? n).map fun k =>
    let lead := leadBase + k / tailCount / vowelCount
    let vowel := vowelBase + k / tailCount % vowelCount
    if k % tailCount = 0 then [lead, vowel] else [lead, vowel, tailBase + k % tailCount]

/-- The syllable of a first letter and a middle one, or of a syllable without
a last letter and a last letter. -/
def syllable? (a b : Nat) : Option Nat :=
  if leadBase ≤ a ∧ a < leadBase + leadCount ∧ vowelBase ≤ b ∧ b < vowelBase + vowelCount then
    some (syllableBase + ((a - leadBase) * vowelCount + (b - vowelBase)) * tailCount)
  else if tailBase < b ∧ b < tailBase + tailCount then
    (syllableNumber? a).bind fun k => if k % tailCount = 0 then some (a + (b - tailBase)) else none
  else none

/-! ## §2. Decomposition. -/

/-- How often the base of a composite can be a composite again. -/
def compositeDepth : Nat := 3

/-- The parts of a code point, taking it apart at most a number of times. -/
def partsWithin : Nat → Nat → List Nat
  | 0, n => [n]
  | depth + 1, n =>
      match parts? n with
      | some (base, mark) => partsWithin depth base ++ [mark]
      | none => [n]

/-- The parts of a character. -/
def partsOf (c : Char) : List Char :=
  if c < '\u00C0' then [c]
  else ((letters? c.toNat).getD (partsWithin compositeDepth c.toNat)).map Char.ofNat

/-- A text with its composites replaced by their parts. -/
def decompose (cs : List Char) : List Char := cs.flatMap partsOf

/-! ## §3. Order. -/

/-- Put a mark before a text, behind the marks of lower classes with which
the text begins. -/
def insertMark (m : Char) : List Char → List Char
  | [] => [m]
  | c :: rest =>
      if 0 < combiningClass c ∧ combiningClass c < combiningClass m then c :: insertMark m rest
      else m :: c :: rest

/-- A text with the marks after each base in the order of their classes. -/
def order (cs : List Char) : List Char :=
  cs.foldr (fun c rest => if combiningClass c = 0 then c :: rest else insertMark c rest) []

/-! ## §4. Composition. -/

/-- The character that two characters make. -/
def joined? (a b : Char) : Option Char :=
  ((syllable? a.toNat b.toNat).or (composite? a.toNat b.toNat)).map Char.ofNat

/-- Whether the last of some marks, listed last first, keeps a character from
the base before the marks. -/
def isCutOff (marks : List Char) (c : Char) : Bool :=
  match marks with
  | [] => false
  | m :: _ => combiningClass c ≤ combiningClass m

/-- Join a base with what follows; `marks` are those that stay behind it, last
first. -/
def composeFrom (base : Char) (marks : List Char) : List Char → List Char
  | [] => base :: marks.reverse
  | c :: rest =>
      match if isCutOff marks c then none else joined? base c with
      | some d => composeFrom d marks rest
      | none =>
          if combiningClass c = 0 then base :: marks.reverse ++ composeFrom c [] rest
          else composeFrom base (c :: marks) rest

/-- A text with its bases joined with the marks after them. -/
def compose : List Char → List Char
  | [] => []
  | c :: rest => if combiningClass c = 0 then composeFrom c [] rest else c :: compose rest

/-- The one way of writing that a text is compared in. -/
def normalize (cs : List Char) : List Char := compose (order (decompose cs))

end LinkLayer.Unicode

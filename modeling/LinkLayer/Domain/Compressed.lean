/-
  LinkLayer.Domain.Compressed
  ───────────────────────────
  **COMPRESSED LABELS.**

  The label of a domain can be written in ASCII alone.  It then begins with
  `xn--`, and goes on with its ASCII characters, a hyphen if there are any,
  and the places and code points of the others.  These come as differences
  to the one before, ordered by code point, in numbers of base 36 whose
  digits say themselves where a number ends.  The thresholds for that adapt
  to the numbers read so far.
-/
import LinkLayer.Text.Numeral

namespace LinkLayer.Domain

open LinkLayer.Text

/-! ## §1. Numbers of variable length. -/

/-- The value of a digit: letters of either case, then decimal digits. -/
def labelDigit? (c : Char) : Option Nat :=
  if 'a' ≤ c ∧ c ≤ 'z' then some (c.toNat - 97)
  else if 'A' ≤ c ∧ c ≤ 'Z' then some (c.toNat - 65)
  else if '0' ≤ c ∧ c ≤ '9' then some (c.toNat - 22)
  else none

/-- The threshold of the digit at place `k` under a bias: a lower digit is the
last one. -/
def labelThreshold (k bias : Nat) : Nat :=
  if k ≤ bias then 1 else if bias + 26 ≤ k then 26 else k - bias

/-- Divide a difference until it is small, counting the places. -/
def reduceBias : Nat → Nat → Nat → Nat
  | 0, delta, k => k + 36 * delta / (delta + 38)
  | fuel + 1, delta, k =>
      if 455 < delta then reduceBias fuel (delta / 35) (k + 36)
      else k + 36 * delta / (delta + 38)

/-- The bias for the next number, given a difference and the number of
characters. -/
def nextBias (delta count : Nat) (first : Bool) : Nat :=
  let d := if first then delta / 700 else delta / 2
  reduceBias 12 (d + d / count) 0

/-- The greatest number that a label may contain, or come to. -/
def numberBound : Nat := 0xFFFFFFFF

/-! ## §2. Decoding. -/

/-- A character with a code point, if there is one. -/
def char? (n : Nat) : Option Char :=
  if n < 0xD800 ∨ (0xDFFF < n ∧ n < 0x110000) then some (Char.ofNat n) else none

/-- Insert the characters that the digits `cs` describe into `out`.  The last
code point was `point`, and `place` is where the next one begins to count;
`n` is the number read so far from there, `weight` the weight of its next
digit, and `k` the place of that digit. -/
def insertAll (cs out : List Char) (point place n weight k bias : Nat) : Option (List Char) :=
  match cs with
  | [] => if k = 36 then some out else none
  | c :: rest =>
      match labelDigit? c with
      | none => none
      | some d =>
          let n' := n + d * weight
          let t := labelThreshold k bias
          if numberBound < n' then none
          else if t ≤ d then
            let weight' := weight * (36 - t)
            if numberBound < weight' then none
            else insertAll rest out point place n' weight' (k + 36) bias
          else
            let size := out.length + 1
            let point' := point + n' / size
            match char? point' with
            | none => none
            | some inserted =>
                let at' := n' % size
                insertAll rest (out.take at' ++ inserted :: out.drop at') point' (at' + 1)
                  (at' + 1) 1 36 (nextBias (n' - place) size (place = 0))

/-- The number of characters past which a compressed label is not read. -/
def compressedBound : Nat := 2000

/-- The label that the text after the mark `xn--` stands for.  It is one that
could not be written otherwise: some character is inserted. -/
def decompress? (cs : List Char) : Option (List Char) :=
  let (base, digits) := (cutLast? '-' cs).getD ([], cs)
  if digits = [] ∨ compressedBound < cs.length ∨ cs.any ('\x80' ≤ ·) then none
  else insertAll digits (base.map lowerLetter) 128 0 0 1 36 72

end LinkLayer.Domain

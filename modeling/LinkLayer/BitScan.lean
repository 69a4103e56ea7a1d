/-
  LinkLayer.BitScan
  ─────────────────
  **THE BITS OF OCTETS, IN ONE PASS.**

  The pass goes over the bits of some octets, the most significant one of the
  first octet first.  The ones at the front are counted; the zero that ends
  them is left out; all later bits are shifted into an accumulator, which is
  put away as an octet whenever it is full.

  A place outside a sequence, a shift by the whole width, a sum or a
  difference out of range: each of them stops the pass, so that its result is
  an `Option`.
-/
import LinkLayer.Text.Bytes

namespace LinkLayer

/-! ## §1. What can fail. -/

/-- The largest count of a signed word. -/
def maxCount : Nat := 2147483647

/-- A count raised by one, if a signed word can hold it. -/
def countUp? (n : Nat) : Option Nat := if n < maxCount then some (n + 1) else none

/-- A difference, if it is not negative. -/
def minus? (a b : Nat) : Option Nat := if b ≤ a then some (a - b) else none

/-- An octet shifted to the right, by less than its width. -/
def shiftRight? (b : UInt8) (n : Nat) : Option UInt8 :=
  if n < 8 then some (b >>> UInt8.ofNat n) else none

/-- The first `n` octets, if there are so many. -/
def prefixOf? (bs : Bytes) (n : Nat) : Option Bytes :=
  if n ≤ bs.length then some (bs.take n) else none

/-- Octets written over others from a place on, if these reach far enough. -/
def overwrite? (into : Bytes) (start : Nat) (part : Bytes) : Option Bytes :=
  if start + part.length ≤ into.length then
    some (into.take start ++ part ++ into.drop (start + part.length))
  else none

/-- The bit at a place, as an octet. -/
def bitAt? (octets : Bytes) (place : Nat) : Option UInt8 := do
  let octet ← octets[place / 8]?
  let shift ← minus? 7 (place % 8)
  let shifted ← shiftRight? octet shift
  return shifted &&& 1

/-! ## §2. The pass. -/

/-- What the pass has gathered: the ones so far, whether a zero ended them,
the accumulator with the number of its bits, and the octets put away. -/
structure BitScan where
  ones : UInt8 := 0
  done : Bool := false
  acc : UInt8 := 0
  accBits : Nat := 0
  tail : Bytes := []
  deriving Repr, DecidableEq

namespace BitScan

/-- One bit of the pass. -/
def take? (s : BitScan) (bit : UInt8) : Option BitScan :=
  if !s.done then
    if bit ≠ 0 then
      -- the count stays at 255 when it gets there
      some { s with ones := if s.ones = 255 then 255 else s.ones + 1 }
    else
      some { s with done := true }
  else do
    let acc := (s.acc <<< 1) ||| bit
    let accBits ← countUp? s.accBits
    if accBits = 8 then
      some { s with acc := 0, accBits := 0, tail := s.tail ++ [acc] }
    else
      some { s with acc := acc, accBits := accBits }

/-- One step of the pass: the bit at a place. -/
def step (octets : Bytes) (s : BitScan) (place : Nat) : Option BitScan := do
  s.take? (← bitAt? octets place)

/-- The whole pass. -/
def over? (octets : Bytes) : Option BitScan :=
  (List.range (octets.length * 8)).foldlM (step octets) {}

/-- Sixteen octets of a pass: a marker, the count, as much of the tail as
there is room for, and zeros up to the end. -/
def octets? (marker : UInt8) (s : BitScan) : Option Bytes := do
  let blank := List.replicate 16 (0 : UInt8)
  let marked ← overwrite? blank 0 [marker]
  let counted ← overwrite? marked 1 [s.ones]
  let room ← minus? counted.length 2
  let part ← prefixOf? s.tail (min s.tail.length room)
  overwrite? counted 2 part

end BitScan

end LinkLayer

/-
  LinkLayer.Proofs.Identity.BitScan
  ─────────────────────────────────
  **WHAT THE PASS OVER BITS GATHERS.**

  The bits that a pass goes over are a function of the place.  If the first
  `z` of them are ones and the next one is a zero, then

    • up to there the pass counts (`BitScan.counting`),
    • from there on it gathers octets, the last of them in part
      (`BitScan.gathering`),

  and `BitScan.after` says which of the two holds after how many places.  That
  is the invariant of the pass: one step keeps it (`step_after`), so that all
  steps together come to it (`over?_eq`).  **No step fails**: each sum, shift
  and index of the pass is in range where it stands.
-/
import LinkLayer.BitScan
import Mathlib.Data.Nat.Bitwise
import Mathlib.Data.List.TakeDrop

namespace LinkLayer

/-! ## §1. Bits by place. -/

/-- The bit of octets at a place: place 0 is the most significant bit of the
first octet, and there are zeros behind the last one. -/
def bitAt (octets : Bytes) (place : Nat) : Bool :=
  (octets.getD (place / 8) 0).toNat.testBit (7 - place % 8)

theorem shiftRight_and_one (b : UInt8) {n : Nat} (h : n < 8) :
    (b >>> UInt8.ofNat n) &&& 1 = (b.toNat.testBit n).toUInt8 := by
  have hn : n < UInt8.size := by
    show n < 256
    omega
  apply UInt8.toNat_inj.mp
  rw [UInt8.toNat_and, UInt8.toNat_shiftRight, UInt8.toNat_ofNat_of_lt' hn, Nat.mod_eq_of_lt h,
    Nat.testBit_eq_decide_div_mod_eq, ← Nat.shiftRight_eq_div_pow]
  show (b.toNat >>> n) &&& 1 = _
  rw [Nat.and_one_is_mod]
  rcases Nat.mod_two_eq_zero_or_one (b.toNat >>> n) with hbit | hbit
  · rw [hbit]
    rfl
  · rw [hbit]
    rfl

/-- **A bit is found at every place of the octets.** -/
theorem bitAt?_eq {octets : Bytes} {place : Nat} (h : place < octets.length * 8) :
    bitAt? octets place = some (bitAt octets place).toUInt8 := by
  have hplace : place / 8 < octets.length := by omega
  have hshift : 7 - place % 8 < 8 := by omega
  have hoctet : octets[place / 8]? = some (octets.getD (place / 8) 0) := by
    rw [List.getD_eq_getElem?_getD, List.getElem?_eq_getElem hplace]
    rfl
  have hminus : minus? 7 (place % 8) = some (7 - place % 8) := if_pos (by omega)
  have hright : shiftRight? (octets.getD (place / 8) 0) (7 - place % 8) =
      some (octets.getD (place / 8) 0 >>> UInt8.ofNat (7 - place % 8)) := if_pos hshift
  simp only [bitAt?, hoctet, hminus, hright, Option.bind_eq_bind, Option.bind_some]
  show some _ = some _
  rw [shiftRight_and_one _ hshift]
  rfl

/-- The bits of inverted octets are the inverted bits. -/
theorem bitAt_map_complement {octets : Bytes} {place : Nat} (h : place < octets.length * 8) :
    bitAt (octets.map (~~~ ·)) place = !bitAt octets place := by
  have hplace : place / 8 < octets.length := by omega
  have hbit : ∀ b : UInt8, ∀ n < 8, (~~~ b).toNat.testBit n = !b.toNat.testBit n := by
    intro b n hn
    have hvalue : (~~~ b).toNat = 2 ^ 8 - (b.toNat + 1) := by
      rw [UInt8.toNat_not]
      show 256 - 1 - b.toNat = 256 - (b.toNat + 1)
      omega
    rw [hvalue, Nat.testBit_two_pow_sub_succ b.toNat_lt, decide_eq_true hn, Bool.true_and]
  rw [bitAt, bitAt, List.getD_eq_getElem?_getD, List.getD_eq_getElem?_getD, List.getElem?_map,
    List.getElem?_eq_getElem hplace]
  exact hbit _ _ (by omega)

/-! ## §2. Bits gathered to an octet. -/

/-- The octet that `n` bits from a place on are shifted into. -/
def gathered (bit : Nat → Bool) (start : Nat) : Nat → UInt8
  | 0 => 0
  | n + 1 => (gathered bit start n <<< 1) ||| (bit (start + n)).toUInt8

/-- A shift by one moves each bit up, and makes room for one. -/
theorem testBit_shiftIn (acc : UInt8) (b : Bool) :
    ((acc <<< 1) ||| b.toUInt8).toNat.testBit 0 = b ∧
    ∀ i < 7, ((acc <<< 1) ||| b.toUInt8).toNat.testBit (i + 1) = acc.toNat.testBit i := by
  have hvalue : ((acc <<< 1) ||| b.toUInt8).toNat =
      (acc.toNat <<< 1 % 2 ^ 8) ||| b.toUInt8.toNat := by
    rw [UInt8.toNat_or, UInt8.toNat_shiftLeft]
    rfl
  rw [hvalue]
  constructor
  · rw [Nat.testBit_or, Nat.testBit_mod_two_pow, Nat.testBit_shiftLeft]
    cases b <;> rfl
  · intro i hi
    have hb : b.toUInt8.toNat.testBit (i + 1) = false := by
      cases b
      · exact Nat.zero_testBit _
      · show (1 : Nat).testBit (i + 1) = false
        rw [Nat.testBit_succ]
        exact Nat.zero_testBit _
    rw [Nat.testBit_or, hb, Bool.or_false, Nat.testBit_mod_two_pow, Nat.testBit_shiftLeft,
      decide_eq_true (show i + 1 < 8 by omega), decide_eq_true (show i + 1 ≥ 1 by omega)]
    rfl

/-- **Eight bits at most are all still there**, the last of them lowest. -/
theorem testBit_gathered (bit : Nat → Bool) (start : Nat) {n i : Nat} (hn : n ≤ 8) (hi : i < n) :
    (gathered bit start n).toNat.testBit i = bit (start + (n - 1 - i)) := by
  induction n generalizing i with
  | zero => exact absurd hi (Nat.not_lt_zero i)
  | succ n ih =>
    have hshift := testBit_shiftIn (gathered bit start n) (bit (start + n))
    cases i with
    | zero => exact hshift.1
    | succ i =>
      have hplace : n + 1 - 1 - (i + 1) = n - 1 - i := by omega
      rw [hplace, ← ih (by omega) (by omega)]
      exact hshift.2 i (by omega)

/-- An octet depends on its own bits only. -/
theorem gathered_congr {bit bit' : Nat → Bool} {start start' n : Nat}
    (h : ∀ t < n, bit (start + t) = bit' (start' + t)) :
    gathered bit start n = gathered bit' start' n := by
  induction n with
  | zero => rfl
  | succ n ih =>
    have hbefore : gathered bit start n = gathered bit' start' n :=
      ih fun t ht => h t (by omega)
    rw [gathered, gathered, hbefore, h n (Nat.lt_succ_self n)]

/-- The complete octets among `n` bits from a place on. -/
def gatheredOctets (bit : Nat → Bool) (start n : Nat) : Bytes :=
  (List.range (n / 8)).map fun i => gathered bit (start + 8 * i) 8

namespace BitScan

/-! ## §3. The invariant of the pass. -/

/-- The pass while there were `n` ones and nothing else. -/
def counting (n : Nat) : BitScan := { ones := UInt8.ofNat (min 255 n) }

/-- The pass when `z` ones were ended by a zero, and `n` bits came after it. -/
def gathering (bit : Nat → Bool) (z n : Nat) : BitScan where
  ones := UInt8.ofNat (min 255 z)
  done := true
  acc := gathered bit (z + 1 + 8 * (n / 8)) (n % 8)
  accBits := n % 8
  tail := gatheredOctets bit (z + 1) n

/-- **The pass after `n` places**, if `z` ones are in front. -/
def after (bit : Nat → Bool) (z n : Nat) : BitScan :=
  if n ≤ z then counting n else gathering bit z (n - (z + 1))

/-- A one more at the front. -/
theorem take?_counting_one (n : Nat) : (counting n).take? 1 = some (counting (n + 1)) := by
  show some ({ ones := if UInt8.ofNat (min 255 n) = 255 then 255
    else UInt8.ofNat (min 255 n) + 1 } : BitScan) = some { ones := UInt8.ofNat (min 255 (n + 1)) }
  by_cases hn : n < 255
  · have hmin : min 255 n = n := by omega
    have hnext : min 255 (n + 1) = n + 1 := by omega
    have hroom : UInt8.ofNat n ≠ 255 := by
      intro hfull
      have hvalue : (UInt8.ofNat n).toNat = n := UInt8.toNat_ofNat_of_lt' (by show n < 256; omega)
      rw [hfull] at hvalue
      have : (255 : UInt8).toNat = 255 := rfl
      omega
    rw [hmin, hnext, if_neg hroom, UInt8.ofNat_add]
    rfl
  · -- the count is full, and stays so
    have hmin : min 255 n = 255 := by omega
    have hnext : min 255 (n + 1) = 255 := by omega
    rw [hmin, hnext]
    rfl

/-- The zero that ends the ones. -/
theorem take?_counting_zero (bit : Nat → Bool) (z : Nat) :
    (counting z).take? 0 = some (gathering bit z 0) := rfl

/-- A bit behind that zero: it fills the accumulator, or joins it. -/
theorem take?_gathering (bit : Nat → Bool) (z n : Nat) :
    (gathering bit z n).take? (bit (z + 1 + n)).toUInt8 = some (gathering bit z (n + 1)) := by
  have hplace : z + 1 + 8 * (n / 8) + n % 8 = z + 1 + n := by omega
  have hshift : (gathered bit (z + 1 + 8 * (n / 8)) (n % 8) <<< 1) |||
      (bit (z + 1 + n)).toUInt8 = gathered bit (z + 1 + 8 * (n / 8)) (n % 8 + 1) := by
    rw [gathered, hplace]
  have hcount : countUp? (n % 8) = some (n % 8 + 1) := by
    have hsmall : n % 8 < maxCount := Nat.lt_of_lt_of_le (Nat.mod_lt n (by decide)) (by decide)
    exact if_pos hsmall
  have htake : (gathering bit z n).take? (bit (z + 1 + n)).toUInt8 =
      if n % 8 + 1 = 8 then
        some { gathering bit z n with
          acc := 0, accBits := 0,
          tail := gatheredOctets bit (z + 1) n ++
            [gathered bit (z + 1 + 8 * (n / 8)) (n % 8 + 1)] }
      else
        some { gathering bit z n with
          acc := gathered bit (z + 1 + 8 * (n / 8)) (n % 8 + 1), accBits := n % 8 + 1 } := by
    rw [← hshift]
    show (countUp? (n % 8)).bind _ = _
    rw [hcount]
    rfl
  rw [htake]
  by_cases hfull : n % 8 + 1 = 8
  · have hdiv : (n + 1) / 8 = n / 8 + 1 := by omega
    have hmod : (n + 1) % 8 = 0 := by omega
    have htail : gatheredOctets bit (z + 1) (n + 1) = gatheredOctets bit (z + 1) n ++
        [gathered bit (z + 1 + 8 * (n / 8)) 8] := by
      rw [gatheredOctets, hdiv, List.range_succ, List.map_append]
      rfl
    rw [if_pos hfull, gathering, gathering, htail, hmod, hfull]
    rfl
  · have hdiv : (n + 1) / 8 = n / 8 := by omega
    have hmod : (n + 1) % 8 = n % 8 + 1 := by omega
    rw [if_neg hfull, gathering, gathering, gatheredOctets, gatheredOctets, hdiv, hmod]

/-- **One step keeps the invariant**, and does not fail. -/
theorem step_after {octets : Bytes} {bit : Nat → Bool} {z n : Nat}
    (hbit : bitAt? octets n = some (bit n).toUInt8)
    (hones : ∀ j < z, bit j = true) (hzero : n = z → bit n = false) :
    step octets (after bit z n) n = some (after bit z (n + 1)) := by
  have hstep : step octets (after bit z n) n = (after bit z n).take? (bit n).toUInt8 := by
    rw [step, hbit]
    rfl
  rw [hstep]
  by_cases hbefore : n < z
  · rw [after, if_pos (Nat.le_of_lt hbefore), after, if_pos (Nat.succ_le_of_lt hbefore),
      hones n hbefore]
    exact take?_counting_one n
  · by_cases hend : n = z
    · have hnone : z + 1 - (z + 1) = 0 := Nat.sub_self _
      rw [hzero hend, hend, after, if_pos (Nat.le_refl z), after, if_neg (Nat.not_succ_le_self z),
        hnone]
      exact take?_counting_zero bit z
    · have hplace : n = z + 1 + (n - (z + 1)) := by omega
      have hmore : n + 1 - (z + 1) = n - (z + 1) + 1 := by omega
      rw [after, if_neg (by omega), after, if_neg (by omega), hmore]
      have hnext := take?_gathering bit z (n - (z + 1))
      rw [← hplace] at hnext
      exact hnext

/-- **The whole pass**: it succeeds, and gathers what the invariant says. -/
theorem over?_eq {octets : Bytes} {bit : Nat → Bool} {z : Nat}
    (hbit : ∀ j < octets.length * 8, bitAt octets j = bit j)
    (hones : ∀ j < z, bit j = true) (hzero : z < octets.length * 8 → bit z = false) :
    over? octets = some (after bit z (octets.length * 8)) := by
  have hrun : ∀ n ≤ octets.length * 8,
      (List.range n).foldlM (step octets) {} = some (after bit z n) := by
    intro n
    induction n with
    | zero =>
      intro _
      rw [after, if_pos (Nat.zero_le z)]
      rfl
    | succ n ih =>
      intro hn
      have hhere : bitAt? octets n = some (bit n).toUInt8 := by
        rw [bitAt?_eq hn, hbit n hn]
      have hend : n = z → bit n = false := by
        intro hz
        rw [hz]
        exact hzero (by omega)
      rw [List.range_succ, List.foldlM_append, ih (Nat.le_of_lt hn)]
      show (step octets (after bit z n) n).bind _ = _
      rw [step_after hhere hones hend]
      rfl
  exact hrun _ (Nat.le_refl _)

/-! ## §4. What the pass comes to. -/

/-- The count is that of the ones, up to 255. -/
theorem ones_after (bit : Nat → Bool) {z n : Nat} (h : z ≤ n) :
    (after bit z n).ones = UInt8.ofNat (min 255 z) := by
  by_cases hn : n ≤ z
  · have hz : n = z := Nat.le_antisymm hn h
    rw [after, if_pos hn, hz]
    rfl
  · rw [after, if_neg hn]
    rfl

/-- The tail has the complete octets behind the first zero. -/
theorem tail_after (bit : Nat → Bool) {z n : Nat} (h : z ≤ n) :
    (after bit z n).tail = gatheredOctets bit (z + 1) (n - (z + 1)) := by
  by_cases hn : n ≤ z
  · have hnone : n - (z + 1) = 0 := by omega
    rw [after, if_pos hn, hnone]
    rfl
  · rw [after, if_neg hn]
    rfl

/-- **Sixteen octets of a pass can always be written.** -/
theorem octets?_eq (marker : UInt8) (s : BitScan) :
    s.octets? marker =
      some (marker :: s.ones :: (s.tail.take 14 ++ List.replicate (14 - s.tail.length) 0)) := by
  have hpart : prefixOf? s.tail (min s.tail.length 14) = some (s.tail.take 14) := by
    have htake : s.tail.take (min s.tail.length 14) = s.tail.take 14 := by
      rw [List.take_eq_take_iff]
      omega
    rw [prefixOf?, if_pos (Nat.min_le_left _ _), htake]
  have hlength : (s.tail.take 14).length = min 14 s.tail.length := List.length_take
  have hwrite : overwrite? (marker :: s.ones :: List.replicate 14 0) 2 (s.tail.take 14) =
      some (marker :: s.ones :: (s.tail.take 14 ++ List.replicate (14 - s.tail.length) 0)) := by
    have hfits : 2 + (s.tail.take 14).length ≤
        (marker :: s.ones :: List.replicate 14 (0 : UInt8)).length := by
      rw [hlength, List.length_cons, List.length_cons, List.length_replicate]
      omega
    have hrest : 14 - min 14 s.tail.length = 14 - s.tail.length := by omega
    rw [overwrite?, if_pos hfits, Nat.add_comm, List.drop_succ_cons, List.drop_succ_cons,
      List.drop_replicate, hlength, hrest]
    rfl
  show (prefixOf? s.tail (min s.tail.length 14)).bind _ = _
  rw [hpart]
  exact hwrite

end BitScan

end LinkLayer

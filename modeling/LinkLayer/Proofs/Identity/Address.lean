/-
  LinkLayer.Proofs.Identity.Address
  ─────────────────────────────────
  **THE ADDRESS OF A KEY IN CLOSED FORM.**

  The address of a key is found bit by bit, in one pass over the inverted key
  (`Identity.address?`).  Said at once, it is

    • the marker,
    • the number of zeros in front of the key, at most 255
      (`Identity.leadingZeros`),
    • the complement of the bits behind the first one bit, as many complete
      octets of them as there are and as there is room for
      (`Identity.filled`, `Identity.tailOctet`),
    • zeros.

  So no key makes the pass fail, and two keys share an address exactly if they
  have the same number of zeros in front, up to 255, and the same bits behind
  the first one as far as the address shows them (`address_closed_form`).
-/
import LinkLayer.Identity
import LinkLayer.Proofs.Identity.BitScan
import LinkLayer.Proofs.Net.Ip

namespace LinkLayer.Identity

/-! ## §1. The bits of a key. -/

/-- The bit of a key at a place: bit 0 is the most significant one of the
first octet. -/
def bit (k : Identity) (place : Nat) : Bool := bitAt k.bytes place

/-- The number of zero bits in front, 256 for the key of zeros. -/
def leadingZeros (k : Identity) : Nat := (List.range 256).findIdx k.bit

/-- The number of octets of the address that show bits of the key: those that
are complete behind the first one bit, up to fourteen. -/
def filled (k : Identity) : Nat := min 14 ((255 - k.leadingZeros) / 8)

/-- The octet of the address with the `i`-th eight bits behind the first one
bit, each of them inverted. -/
def tailOctet (k : Identity) (i : Nat) : UInt8 :=
  gathered (fun j => !k.bit j) (k.leadingZeros + 1 + 8 * i) 8

/-- **The zeros in front**: there is nothing else before the first one bit. -/
theorem leadingZeros_spec (k : Identity) : k.leadingZeros ≤ 256 ∧
    (∀ j < k.leadingZeros, k.bit j = false) ∧
    (k.leadingZeros < 256 → k.bit k.leadingZeros = true) := by
  have hlength : (List.range 256).length = 256 := List.length_range
  have hle : (List.range 256).findIdx k.bit ≤ (List.range 256).length := List.findIdx_le_length
  refine ⟨by rw [leadingZeros]; omega, ?_, ?_⟩
  · intro j hj
    have hbefore := List.not_of_lt_findIdx hj
    rw [List.getElem_range] at hbefore
    exact hbefore
  · intro hone
    have hfound : (List.range 256).findIdx k.bit < (List.range 256).length := by
      rw [hlength]
      exact hone
    have hbit : k.bit ((List.range 256)[(List.range 256).findIdx k.bit]) = true :=
      List.findIdx_getElem
    rw [List.getElem_range] at hbit
    exact hbit

/-! ## §2. The address. -/

/-- Sixteen octets that show a key. -/
def shownOctets (k : Identity) : Bytes :=
  addressMarker :: UInt8.ofNat (min 255 k.leadingZeros) ::
    ((List.range k.filled).map k.tailOctet ++ List.replicate (14 - k.filled) 0)

theorem length_shownOctets (k : Identity) : k.shownOctets.length = 16 := by
  have hroom : k.filled ≤ 14 := Nat.min_le_left _ _
  rw [shownOctets, List.length_cons, List.length_cons, List.length_append, List.length_map,
    List.length_range, List.length_replicate]
  omega

/-- The pass over an inverted key. -/
theorem over?_inverted (k : Identity) :
    BitScan.over? k.inverted = some (BitScan.after (fun j => !k.bit j) k.leadingZeros 256) := by
  obtain ⟨_, hzeros, hone⟩ := k.leadingZeros_spec
  have hplaces : k.bytes.length * 8 = 256 := by
    rw [k.length_eq]
    rfl
  have hinverted : k.inverted.length * 8 = 256 := by
    rw [inverted, List.length_map, hplaces]
  rw [← hinverted]
  apply BitScan.over?_eq
  · intro j hj
    exact bitAt_map_complement (by omega)
  · intro j hj
    rw [hzeros j hj]
    rfl
  · intro hlt
    rw [hone (by omega)]
    rfl

/-- **The pass comes to an address**, with the octets that show the key. -/
theorem address_spec (k : Identity) :
    k.address? = some k.address ∧ k.address.octets = k.shownOctets := by
  have hle : k.leadingZeros ≤ 256 := k.leadingZeros_spec.1
  have hcount : (255 - k.leadingZeros) / 8 = (256 - (k.leadingZeros + 1)) / 8 := by omega
  obtain ⟨ip, hip, hoctets⟩ := Ipv6.ofOctets?_eq_some k.length_shownOctets
  have hscan : (BitScan.after (fun j => !k.bit j) k.leadingZeros 256).octets? addressMarker =
      some k.shownOctets := by
    have htail : (gatheredOctets (fun j => !k.bit j) (k.leadingZeros + 1)
        (256 - (k.leadingZeros + 1))).take 14 = (List.range k.filled).map k.tailOctet := by
      rw [gatheredOctets, ← List.map_take, List.take_range, filled, hcount]
      rfl
    have hrest : 14 - (gatheredOctets (fun j => !k.bit j) (k.leadingZeros + 1)
        (256 - (k.leadingZeros + 1))).length = 14 - k.filled := by
      rw [gatheredOctets, List.length_map, List.length_range, filled, hcount]
      omega
    rw [BitScan.octets?_eq, BitScan.ones_after _ hle, BitScan.tail_after _ hle, htail, hrest,
      shownOctets]
  have haddress : k.address? = some ip := by
    rw [address?, k.over?_inverted]
    show (BitScan.octets? _ _).bind _ = _
    rw [hscan]
    exact hip
  have hsame : k.address = ip := by
    rw [address, haddress]
    rfl
  rw [hsame]
  exact ⟨haddress, hoctets⟩

/-- An octet of the tail shows eight bits. -/
theorem testBit_tailOctet (k : Identity) (i : Nat) {t : Nat} (ht : t < 8) :
    (k.tailOctet i).toNat.testBit (7 - t) = !k.bit (k.leadingZeros + 1 + 8 * i + t) := by
  have hplace : 8 - 1 - (7 - t) = t := by omega
  rw [tailOctet, testBit_gathered _ _ (Nat.le_refl 8) (by omega), hplace]

/-- The octets behind the count: bits of the key, then zeros. -/
theorem getElem?_shownOctets (k : Identity) (i : Nat) :
    (i < k.filled → k.shownOctets[2 + i]? = some (k.tailOctet i)) ∧
    (k.filled ≤ i → i < 14 → k.shownOctets[2 + i]? = some 0) := by
  have hlength : ((List.range k.filled).map k.tailOctet).length = k.filled := by
    rw [List.length_map, List.length_range]
  have hplace : k.shownOctets[2 + i]? =
      ((List.range k.filled).map k.tailOctet ++ List.replicate (14 - k.filled) 0)[i]? := by
    rw [Nat.add_comm]
    rfl
  rw [hplace]
  constructor
  · intro hi
    rw [List.getElem?_append_left (by omega), List.getElem?_map, List.getElem?_range hi]
    rfl
  · intro hi hroom
    rw [List.getElem?_append_right (by omega), hlength,
      List.getElem?_replicate_of_lt (by omega)]

/-! ## §3. Keys that share an address. -/

/-- The address shows as much of two keys that have, up to 255, the same
number of zeros in front. -/
theorem filled_congr {k l : Identity} (h : min k.leadingZeros 255 = min l.leadingZeros 255) :
    k.filled = l.filled := by
  have hk : k.leadingZeros ≤ 256 := k.leadingZeros_spec.1
  have hl : l.leadingZeros ≤ 256 := l.leadingZeros_spec.1
  have hsame : (255 - k.leadingZeros) / 8 = (255 - l.leadingZeros) / 8 := by omega
  rw [filled, filled, hsame]

/-- **What two keys that share an address have in common.** -/
theorem shownOctets_eq_iff (k l : Identity) : k.shownOctets = l.shownOctets ↔
    min k.leadingZeros 255 = min l.leadingZeros 255 ∧
    ∀ j < 8 * k.filled, k.bit (k.leadingZeros + 1 + j) = l.bit (l.leadingZeros + 1 + j) := by
  constructor
  · intro h
    have hzeros : min k.leadingZeros 255 = min l.leadingZeros 255 := by
      have hcount : UInt8.ofNat (min 255 k.leadingZeros) = UInt8.ofNat (min 255 l.leadingZeros) :=
        (List.cons.inj (List.cons.inj h).2).1
      have hvalue := congrArg UInt8.toNat hcount
      rw [UInt8.toNat_ofNat_of_lt' (by show min 255 k.leadingZeros < 256; omega),
        UInt8.toNat_ofNat_of_lt' (by show min 255 l.leadingZeros < 256; omega)] at hvalue
      omega
    refine ⟨hzeros, ?_⟩
    intro j hj
    -- bit `j` behind the first one is bit `j % 8` of the octet `j / 8`
    have hoctet : k.tailOctet (j / 8) = l.tailOctet (j / 8) := by
      have hk := (k.getElem?_shownOctets (j / 8)).1 (by omega)
      have hl := (l.getElem?_shownOctets (j / 8)).1 (by rw [← filled_congr hzeros]; omega)
      rw [h, hl] at hk
      exact (Option.some.inj hk).symm
    have hplace : ∀ z : Nat, z + 1 + 8 * (j / 8) + j % 8 = z + 1 + j := by
      intro z
      omega
    have hbit := k.testBit_tailOctet (j / 8) (Nat.mod_lt j (by decide))
    rw [hoctet, l.testBit_tailOctet (j / 8) (Nat.mod_lt j (by decide)), hplace, hplace] at hbit
    exact (Bool.not_inj hbit).symm
  · intro ⟨hzeros, hbits⟩
    have hcount : min 255 k.leadingZeros = min 255 l.leadingZeros := by omega
    have hoctets : ∀ i < l.filled, k.tailOctet i = l.tailOctet i := by
      intro i hi
      apply gathered_congr
      intro t ht
      have hj := hbits (8 * i + t) (by rw [filled_congr hzeros]; omega)
      rw [← Nat.add_assoc, ← Nat.add_assoc] at hj
      show (!k.bit _) = !l.bit _
      rw [hj]
    have htail : (List.range l.filled).map k.tailOctet = (List.range l.filled).map l.tailOctet :=
      List.map_congr_left fun i hi => hoctets i (List.mem_range.mp hi)
    rw [shownOctets, shownOctets, hcount, filled_congr hzeros, htail]

/-- The key of zeros and the key with a one at its very end share an address:
the count of zeros stops at 255. -/
example : (Identity.replicate 0).leadingZeros = 256 ∧
    (Identity.mk (List.replicate 31 0 ++ [1]) rfl).leadingZeros = 255 ∧
    (Identity.mk (List.replicate 31 0 ++ [1]) rfl).shownOctets =
      (Identity.replicate 0).shownOctets := by
  decide +kernel

/-- **Addresses in closed form, and which keys share one.**  For every key
the pass over its bits succeeds.  With `z` zeros in front of the key, the
address has the marker, `min z 255`, the complement of the bits from `z + 1`
on, eight to an octet, and then zeros; and two keys have one address exactly
if their counts agree and so do the bits that it shows. -/
theorem address_closed_form :
    (∀ k : Identity,
      (k.leadingZeros ≤ 256 ∧ (∀ j < k.leadingZeros, k.bit j = false) ∧
        (k.leadingZeros < 256 → k.bit k.leadingZeros = true)) ∧
      k.address? = some k.address ∧
      k.address.octets.length = 16 ∧
      k.address.octets[0]? = some 0x02 ∧
      k.address.octets[1]? = some (UInt8.ofNat (min k.leadingZeros 255)) ∧
      (∀ i < min 14 ((255 - k.leadingZeros) / 8), ∃ octet : UInt8,
        k.address.octets[2 + i]? = some octet ∧
        ∀ t < 8, octet.toNat.testBit (7 - t) = !k.bit (k.leadingZeros + 1 + 8 * i + t)) ∧
      (∀ i, min 14 ((255 - k.leadingZeros) / 8) ≤ i → i < 14 →
        k.address.octets[2 + i]? = some 0)) ∧
    (∀ k l : Identity, k.address = l.address ↔
      min k.leadingZeros 255 = min l.leadingZeros 255 ∧
      ∀ j < 8 * min 14 ((255 - k.leadingZeros) / 8),
        k.bit (k.leadingZeros + 1 + j) = l.bit (l.leadingZeros + 1 + j)) := by
  constructor
  · intro k
    obtain ⟨hsome, hoctets⟩ := k.address_spec
    have hcount : min k.leadingZeros 255 = min 255 k.leadingZeros := Nat.min_comm _ _
    rw [hoctets, hcount]
    refine ⟨k.leadingZeros_spec, hsome, k.length_shownOctets, rfl, rfl, ?_, ?_⟩
    · intro i hi
      exact ⟨k.tailOctet i, (k.getElem?_shownOctets i).1 hi, fun t ht => k.testBit_tailOctet i ht⟩
    · intro i hi hroom
      exact (k.getElem?_shownOctets i).2 hi hroom
  · intro k l
    rw [← Ipv6.octets_inj, k.address_spec.2, l.address_spec.2]
    exact shownOctets_eq_iff k l

end LinkLayer.Identity

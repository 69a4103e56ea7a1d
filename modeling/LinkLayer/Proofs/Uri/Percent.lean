/-
  LinkLayer.Proofs.Uri.Percent
  ────────────────────────────
  **ENCODING TEXTS, AND READING THEM AGAIN.**

    • `mem_percentEncode` — what stands in an encoded text: the characters
      that were let through, percent signs, and digits,
    • `percentEncode_eq_self_iff` — **a text stays as it is exactly if no
      character of it is in the set**,
    • `percentDecode_percentEncode` — **the octets of a text are read back
      from its encoded form**, whatever the set, if only it holds the percent
      sign and everything outside ASCII.
-/
import LinkLayer.Proofs.Text.Bytes
import LinkLayer.Proofs.Text.Numeral
import LinkLayer.Uri.Percent

namespace LinkLayer.Uri

open LinkLayer.Text

/-! ## §1. Escapes. -/

/-- The uppercase digits. -/
theorem hexValue?_upperHexDigit {k : Nat} (h : k < 16) :
    hexValue? (upperHexDigit k) = some k ∧ (upperHexDigit k).toNat < 128 := by
  revert k
  decide

/-- An escape is a percent sign and digits. -/
theorem mem_escapeByte {c : Char} {b : UInt8} (h : c ∈ escapeByte b) :
    c = '%' ∨ (hexValue? c).isSome = true := by
  simp only [escapeByte, List.mem_cons, List.not_mem_nil, or_false] at h
  rcases h with h | rfl | rfl
  · exact .inl h
  · exact .inr (by rw [(hexValue?_upperHexDigit (octet_high_lt b)).1]; rfl)
  · exact .inr (by rw [(hexValue?_upperHexDigit (octet_low_lt b)).1]; rfl)

/-! ## §2. Encoded texts. -/

variable {set : EncodeSet}

theorem percentEncode_cons (c : Char) (cs : List Char) :
    percentEncode set (c :: cs) = encodeChar set c ++ percentEncode set cs := by
  simp [percentEncode]

/-- **What stands in an encoded text.** -/
theorem mem_percentEncode {c : Char} {cs : List Char} (h : c ∈ percentEncode set cs) :
    (c ∈ cs ∧ set c = false) ∨ c = '%' ∨ (hexValue? c).isSome = true := by
  obtain ⟨d, hd, hc⟩ := List.mem_flatMap.mp h
  unfold encodeChar at hc
  split at hc
  · obtain ⟨b, -, hb⟩ := List.mem_flatMap.mp hc
    exact .inr (mem_escapeByte hb)
  · rename_i hset
    cases List.mem_singleton.mp hc
    exact .inl ⟨hd, by simpa using hset⟩

/-- A character that is no part of an escape is in an encoded text only if it
was in the text. -/
theorem mem_of_mem_percentEncode {c : Char} {cs : List Char} (h : c ∈ percentEncode set cs)
    (hpercent : c ≠ '%') (hdigit : hexValue? c = none) : c ∈ cs := by
  rcases mem_percentEncode h with ⟨hc, -⟩ | hc | hc
  · exact hc
  · exact absurd hc hpercent
  · rw [hdigit] at hc
    cases hc

theorem percentEncode_eq_self {cs : List Char} (h : ∀ c ∈ cs, set c = false) :
    percentEncode set cs = cs := by
  induction cs with
  | nil => rfl
  | cons c cs ih =>
    rw [percentEncode_cons, encodeChar, if_neg (by simp [h c List.mem_cons_self]),
      ih fun d hd => h d (List.mem_cons_of_mem c hd)]
    rfl

/-- A character of the set becomes longer. -/
theorem length_encodeChar {c : Char} (h : set c = true) : 1 < (encodeChar set c).length := by
  have hsize := String.length_utf8EncodeChar c
  have hpos := Char.utf8Size_pos c
  rw [encodeChar, if_pos h, List.length_flatMap]
  simp only [escapeByte, List.length_cons, List.length_nil, List.map_const', List.sum_replicate_nat]
  omega

theorem length_encodeChar_pos (c : Char) : 0 < (encodeChar set c).length := by
  cases h : set c with
  | true => exact Nat.lt_trans Nat.zero_lt_one (length_encodeChar h)
  | false => simp [encodeChar, h]

/-- Encoding shortens no text, and lengthens it where it does anything. -/
theorem length_le_percentEncode (cs : List Char) : cs.length ≤ (percentEncode set cs).length := by
  induction cs with
  | nil => exact Nat.le_refl _
  | cons c cs ih =>
    have : 0 < (encodeChar set c).length := length_encodeChar_pos c
    rw [percentEncode_cons, List.length_append, List.length_cons]
    omega

theorem length_lt_percentEncode {c : Char} {cs : List Char} (hc : c ∈ cs) (hset : set c = true) :
    cs.length < (percentEncode set cs).length := by
  induction cs with
  | nil => cases hc
  | cons d cs ih =>
    rw [percentEncode_cons, List.length_append, List.length_cons]
    rcases List.mem_cons.mp hc with rfl | hc
    · have := length_encodeChar hset
      have : cs.length ≤ (percentEncode set cs).length := length_le_percentEncode cs
      omega
    · have : 0 < (encodeChar set d).length := length_encodeChar_pos d
      have := ih hc
      omega

/-- **A text stays as it is exactly if no character of it is in the set.** -/
theorem percentEncode_eq_self_iff {cs : List Char} :
    percentEncode set cs = cs ↔ ∀ c ∈ cs, set c = false := by
  refine ⟨fun h c hc => ?_, percentEncode_eq_self⟩
  by_contra hset
  have := length_lt_percentEncode hc (by simpa using hset)
  rw [h] at this
  exact absurd this (Nat.lt_irrefl _)

/-! ## §3. Reading encoded texts. -/

/-- The octet of an ASCII digit is read as that digit. -/
theorem hexOctet?_ascii {c : Char} (h : c.toNat < 128) :
    hexOctet? (UInt8.ofNat c.toNat) = hexValue? c := by
  rw [hexOctet?, UInt8.toNat_ofNat_of_lt' (Nat.lt_trans h (by decide)), Char.ofNat_toNat]

theorem percentDecode_cons {b : UInt8} (h : b ≠ 0x25) (bs : Bytes) :
    percentDecode (b :: bs) = b :: percentDecode bs := by
  match bs with
  | [] => rfl
  | [_] => rfl
  | _ :: _ :: _ => simp [percentDecode, h]

/-- **An escape is read as its octet.** -/
theorem percentDecode_escapeByte (b : UInt8) (bs : Bytes) :
    percentDecode (utf8Chars (escapeByte b) ++ bs) = b :: percentDecode bs := by
  have hhi := hexValue?_upperHexDigit (octet_high_lt b)
  have hlo := hexValue?_upperHexDigit (octet_low_lt b)
  have hoctets : utf8Chars (escapeByte b) =
      [0x25, UInt8.ofNat (upperHexDigit (b.toNat / 16)).toNat,
        UInt8.ofNat (upperHexDigit (b.toNat % 16)).toNat] := by
    simp only [utf8Chars, escapeByte, List.flatMap_cons, List.flatMap_nil,
      utf8EncodeChar_ascii hhi.2, utf8EncodeChar_ascii hlo.2]
    rfl
  have hvalue : b.toNat / 16 * 16 + b.toNat % 16 = b.toNat := Nat.div_add_mod' b.toNat 16
  rw [hoctets]
  simp only [List.cons_append, List.nil_append, percentDecode, if_true, escaped?,
    hexOctet?_ascii hhi.2, hexOctet?_ascii hlo.2, hhi.1, hlo.1, hvalue, UInt8.ofNat_toNat]

theorem percentDecode_escapes (bs rest : Bytes) :
    percentDecode (utf8Chars (bs.flatMap escapeByte) ++ rest) = bs ++ percentDecode rest := by
  induction bs with
  | nil => rfl
  | cons b bs ih =>
    rw [List.flatMap_cons, utf8Chars_append, List.append_assoc, percentDecode_escapeByte, ih,
      List.cons_append]

/-- **The octets of a text are read back from its encoded form.** -/
theorem percentDecode_percentEncode (hset : ∀ c, set c = false → c ≠ '%' ∧ c.toNat < 128)
    (cs : List Char) : percentDecode (utf8Chars (percentEncode set cs)) = utf8Chars cs := by
  induction cs with
  | nil => rfl
  | cons c cs ih =>
    rw [percentEncode_cons, utf8Chars_append, encodeChar]
    split
    · rw [percentDecode_escapes, ih]
      rfl
    · rename_i hc
      obtain ⟨hpercent, hascii⟩ := hset c (by simpa using hc)
      have hoctet : UInt8.ofNat c.toNat ≠ 0x25 := by
        intro h
        have := congrArg UInt8.toNat h
        rw [UInt8.toNat_ofNat_of_lt' (Nat.lt_trans hascii (by decide))] at this
        exact hpercent (Char.toNat_inj.mp this)
      simp only [utf8Chars, List.flatMap_cons, List.flatMap_nil, utf8EncodeChar_ascii hascii,
        List.append_nil, List.singleton_append, percentDecode_cons hoctet]
      exact congrArg _ ih

end LinkLayer.Uri

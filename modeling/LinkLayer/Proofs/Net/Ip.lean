/-
  LinkLayer.Proofs.Net.Ip
  ───────────────────────
  **ADDRESSES ARE READ BACK FROM THEIR TEXT.**

    • `Ipv4.parse?_eq_some_iff` — **an IPv4 address has one text**, its dotted
      quad, and nothing else is read as it,
    • `Ipv6.parse?_hexChars` — **the text of an IPv6 address in hexadecimal is
      read as that address**, wherever `::` stands in it,
    • `Ipv6.parse?_chars` — the same of its other text, in which a mapped IPv4
      address has its dotted quad,
    • `Ipv6.ofOctets?_eq_some` — every sixteen octets are those of an address.

  An IPv6 address has many texts.  The one that is written leaves out a run of
  zero pieces; the reader finds the same place again, since no piece is empty
  and so nothing else in the text looks like `::` (`cutDoubleColon?_append`).
-/
import LinkLayer.Net.Ip
import LinkLayer.Proofs.Text.Numeral

namespace LinkLayer

open LinkLayer.Text

/-! ## §1. Dotted quads. -/

/-- A character that is no decimal digit is in no decimal numeral. -/
theorem not_mem_decimalText {c : Char} (hc : isDigit c = false) (n : Nat) : c ∉ decimalText n := by
  intro h
  rw [isDigit_of_mem_toDigits h] at hc
  cases hc

/-- **A number of a dotted quad has one text.** -/
theorem octet?_eq_some_iff {cs : List Char} {b : UInt8} :
    octet? cs = some b ↔ cs = decimalText b.toNat := by
  constructor
  · intro h
    unfold octet? at h
    split at h
    · cases h
    split at h
    · cases h
    rename_i hzero
    split at h
    · rename_i n hn
      split at h
      · rename_i hle
        cases h
        rw [UInt8.toNat_ofNat_of_lt' (Nat.lt_succ_of_le hle)]
        exact eq_toDigits_of_decimal? hn fun h0 => Classical.not_not.mp fun hne => hzero ⟨h0, hne⟩
      · cases h
    · cases h
  · rintro rfl
    have hlt : b.toNat < 256 := b.toNat_lt
    have hlen : ¬ 3 < (decimalText b.toNat).length := by
      rw [Nat.not_lt, decimalText, Nat.length_toDigits_le_iff (by decide) (by decide)]
      omega
    have hzero : ¬ ((decimalText b.toNat).head? = some '0' ∧ decimalText b.toNat ≠ ['0']) := by
      rintro ⟨h0, hne⟩
      rw [decimalText, head?_toDigits h0] at hne
      exact hne rfl
    rw [octet?, if_neg hlen, if_neg hzero, decimalText, decimal?_toDigits]
    simp only [Nat.le_of_lt_succ hlt, if_true, UInt8.ofNat_toNat]

theorem octet?_decimalText (b : UInt8) : octet? (decimalText b.toNat) = some b :=
  octet?_eq_some_iff.mpr rfl

/-- Numbers of a dotted quad that can be read are the texts of what they are
read as. -/
theorem eq_map_of_map_octet? {parts : List (List Char)} {bs : List UInt8}
    (h : parts.map octet? = bs.map some) : parts = bs.map fun b => decimalText b.toNat := by
  induction parts generalizing bs with
  | nil => cases bs with
    | nil => rfl
    | cons b bs => cases h
  | cons part parts ih =>
    cases bs with
    | nil => cases h
    | cons b bs =>
      rw [List.map_cons, List.map_cons, List.cons.injEq] at h
      rw [List.map_cons, ← octet?_eq_some_iff.mp h.1, ← ih h.2]

/-- The numbers of an address. -/
def Ipv4.octets (ip : Ipv4) : List UInt8 := [ip.a, ip.b, ip.c, ip.d]

theorem Ipv4.chars_eq (ip : Ipv4) :
    ip.chars = ['.'].intercalate (ip.octets.map fun b => decimalText b.toNat) := by
  simp [Ipv4.chars, Ipv4.octets, List.intercalate]

/-- **An IPv4 address has one text.** -/
theorem Ipv4.parse?_eq_some_iff {cs : List Char} {ip : Ipv4} :
    Ipv4.parse? cs = some ip ↔ cs = ip.chars := by
  rw [Ipv4.parse?, splitAt_eq_splitOn]
  constructor
  · intro h
    split at h
    · rename_i a b c d hparts
      cases h
      have hmap : cs.splitOn '.' = [a, b, c, d].map fun b => decimalText b.toNat :=
        eq_map_of_map_octet? hparts
      rw [← @List.intercalate_splitOn _ cs _ _ '.', hmap, Ipv4.chars_eq]
      rfl
    · cases h
  · rintro rfl
    have hfree : ∀ part ∈ ip.octets.map fun b => decimalText b.toNat, '.' ∉ part := by
      intro part hpart
      obtain ⟨b, -, rfl⟩ := List.mem_map.mp hpart
      exact not_mem_decimalText rfl _
    rw [Ipv4.chars_eq, List.splitOn_intercalate '.' hfree (by simp [Ipv4.octets])]
    simp only [Ipv4.octets, List.map_cons, List.map_nil, octet?_decimalText]

/-! ## §2. Pieces. -/

/-- A character that is no hexadecimal digit is in no hexadecimal numeral. -/
theorem not_mem_hexNumeral {c : Char} (hc : hexValue? c = none) (n : Nat) : c ∉ hexNumeral n := by
  intro h
  obtain ⟨k, hk, rfl⟩ := mem_toDigits (by decide) h
  rw [hexValue?_digitChar hk] at hc
  cases hc

/-- A piece is read back from its numeral. -/
theorem piece?_hexNumeral (p : UInt16) : piece? (hexNumeral p.toNat) = some p := by
  have hlen : ¬ 4 < (hexNumeral p.toNat).length := by
    rw [Nat.not_lt, hexNumeral, Nat.length_toDigits_le_iff (by decide) (by decide)]
    exact p.toNat_lt
  rw [piece?, if_neg hlen, hexNumeral, hexadecimal?_toDigits, Option.map_some, UInt16.ofNat_toNat]

/-- Pieces are read back from their numerals. -/
theorem pieceList?_map (quad : Bool) (ps : List UInt16) :
    pieceList? quad (ps.map fun p => hexNumeral p.toNat) = some ps := by
  induction ps with
  | nil => rfl
  | cons p ps ih =>
    cases ps with
    | nil => simp [pieceList?, piece?_hexNumeral]
    | cons q qs =>
      simp only [List.map_cons] at ih ⊢
      simp only [pieceList?, piece?_hexNumeral, ih]

/-- A numeral begins with a character that is no colon. -/
theorem exists_hexNumeral (n : Nat) : ∃ c rest, hexNumeral n = c :: rest ∧ c ≠ ':' := by
  obtain ⟨c, rest, h⟩ := List.exists_cons_of_ne_nil (@Nat.toDigits_ne_nil n 16)
  refine ⟨c, rest, h, fun hc => not_mem_hexNumeral (c := ':') rfl n ?_⟩
  rw [hexNumeral, h, hc]
  exact List.mem_cons_self

@[simp] theorem piecesText_nil : piecesText [] = [] := rfl

@[simp] theorem piecesText_singleton (p : UInt16) : piecesText [p] = hexNumeral p.toNat := by
  simp [piecesText]

theorem piecesText_cons_cons (p q : UInt16) (ps : List UInt16) :
    piecesText (p :: q :: ps) = hexNumeral p.toNat ++ ':' :: piecesText (q :: ps) := by
  simp [piecesText]

/-- The text of pieces begins with a character that is no colon. -/
theorem exists_piecesText (p : UInt16) (ps : List UInt16) :
    ∃ c rest, piecesText (p :: ps) = c :: rest ∧ c ≠ ':' := by
  obtain ⟨c, rest, h, hc⟩ := exists_hexNumeral p.toNat
  cases ps with
  | nil => exact ⟨c, rest, by rw [piecesText_singleton, h], hc⟩
  | cons q ps => exact ⟨c, rest ++ ':' :: piecesText (q :: ps), by
      rw [piecesText_cons_cons, h, List.cons_append], hc⟩

/-- **One side of `::` is read back from its text.** -/
theorem side?_piecesText (quad : Bool) (ps : List UInt16) :
    side? quad (piecesText ps) = some ps := by
  cases ps with
  | nil => rfl
  | cons p ps =>
    have hfree : ∀ part ∈ (p :: ps).map fun p => hexNumeral p.toNat, ':' ∉ part := by
      intro part hpart
      obtain ⟨q, -, rfl⟩ := List.mem_map.mp hpart
      exact not_mem_hexNumeral rfl _
    obtain ⟨c, rest, hc, -⟩ := exists_piecesText p ps
    rw [side?, if_neg (by simp [hc]), splitAt_eq_splitOn]
    change pieceList? quad (List.splitOn ':' ([':'].intercalate _)) = _
    rw [List.splitOn_intercalate ':' hfree (by simp), pieceList?_map]

/-! ## §3. The double colon. -/

theorem cutDoubleColon?_cons {c : Char} (hc : c ≠ ':') (cs : List Char) :
    cutDoubleColon? (c :: cs) = (cutDoubleColon? cs).map fun p => (c :: p.1, p.2) := by
  rw [cutDoubleColon?]
  rintro rest rfl
  exact absurd rfl hc

/-- A colon that stands alone is no double colon. -/
theorem cutDoubleColon?_colon {c : Char} (hc : c ≠ ':') (cs : List Char) :
    cutDoubleColon? (':' :: c :: cs) =
      (cutDoubleColon? (c :: cs)).map fun p => (':' :: p.1, p.2) := by
  rw [cutDoubleColon?]
  rintro rest - hrest
  exact hc (List.cons.inj hrest).1

/-- No double colon begins in a text without colons. -/
theorem cutDoubleColon?_free {part : List Char} (h : ':' ∉ part) (cs : List Char) :
    cutDoubleColon? (part ++ cs) = (cutDoubleColon? cs).map fun p => (part ++ p.1, p.2) := by
  induction part with
  | nil => simp
  | cons c part ih =>
    have hc : c ≠ ':' := fun hc => h (by simp [hc])
    rw [List.cons_append, cutDoubleColon?_cons hc, ih fun hmem => h (List.mem_cons_of_mem c hmem),
      Option.map_map]
    rfl

/-- **No double colon begins in a text of pieces.** -/
theorem cutDoubleColon?_append (ps : List UInt16) (cs : List Char) :
    cutDoubleColon? (piecesText ps ++ cs) =
      (cutDoubleColon? cs).map fun p => (piecesText ps ++ p.1, p.2) := by
  induction ps with
  | nil => simp
  | cons p ps ih =>
    have hfree : ':' ∉ hexNumeral p.toNat := not_mem_hexNumeral rfl _
    cases ps with
    | nil => rw [piecesText_singleton, cutDoubleColon?_free hfree]
    | cons q ps =>
      obtain ⟨c, rest, hrest, hc⟩ := exists_piecesText q ps
      rw [hrest] at ih
      rw [piecesText_cons_cons, List.append_assoc, cutDoubleColon?_free hfree, hrest,
        List.cons_append, List.cons_append, cutDoubleColon?_colon hc, ← List.cons_append, ih,
        Option.map_map, Option.map_map]
      congr 1
      funext x
      simp

/-! ## §4. The run of zeros that is left out. -/

/-- Pieces begin with as many zeros as their run of zeros is long. -/
theorem replicate_zeroRun (ps : List UInt16) :
    ps = List.replicate (zeroRun ps) 0 ++ ps.dropWhile (· = 0) := by
  have hzeros : ps.takeWhile (· = 0) = List.replicate (zeroRun ps) 0 := by
    rw [List.eq_replicate_iff]
    refine ⟨rfl, fun p hp => ?_⟩
    exact of_decide_eq_true (List.all_eq_true.mp List.all_takeWhile p hp)
  rw [← hzeros, List.takeWhile_append_dropWhile]

/-- **Where the longest run of zeros stands, there are as many zeros.** -/
theorem longestZeroRun_spec {i : Nat} {ps : List UInt16} (h : 0 < (longestZeroRun i ps).2) :
    ∃ left right, ps = left ++ List.replicate (longestZeroRun i ps).2 0 ++ right ∧
      (longestZeroRun i ps).1 = i + left.length := by
  induction ps generalizing i with
  | nil => cases h
  | cons p ps ih =>
    simp only [longestZeroRun] at h ⊢
    split at h
    · rename_i hle
      rw [if_pos hle]
      exact ⟨[], (p :: ps).dropWhile (· = 0), replicate_zeroRun (p :: ps), rfl⟩
    · rename_i hgt
      rw [if_neg hgt]
      obtain ⟨left, right, hps, hplace⟩ := ih h
      refine ⟨p :: left, right, by rw [List.cons_append, List.cons_append, ← hps], ?_⟩
      rw [hplace, List.length_cons]
      omega

theorem Ipv6.ofPieces?_pieces (ip : Ipv6) : Ipv6.ofPieces? ip.pieces = some ip := by
  rw [Ipv6.ofPieces?, dif_pos ip.length_eq]

/-- **The text of an IPv6 address in hexadecimal is read as that address.** -/
theorem Ipv6.parse?_hexChars (ip : Ipv6) : Ipv6.parse? ip.hexChars = some ip := by
  unfold Ipv6.hexChars
  dsimp only
  split
  · rename_i hrun
    obtain ⟨left, right, hpieces, hplace⟩ :=
      longestZeroRun_spec (Nat.lt_trans Nat.zero_lt_one hrun)
    generalize longestZeroRun 0 ip.pieces = run at *
    rw [Nat.zero_add] at hplace
    have hlength := ip.length_eq
    rw [hpieces] at hlength
    simp only [List.length_append, List.length_replicate] at hlength
    have hleft : ip.pieces.take run.1 = left := by rw [hpieces, hplace]; simp
    have hright : ip.pieces.drop (run.1 + run.2) = right := by
      rw [hpieces, hplace]
      exact List.drop_left' (by simp)
    have hcut : cutDoubleColon? (piecesText left ++ [':', ':'] ++ piecesText right) =
        some (piecesText left, piecesText right) := by
      rw [List.append_assoc, cutDoubleColon?_append]
      simp [cutDoubleColon?]
    have hfewer : left.length + right.length < 8 := by omega
    have hzeros : 8 - left.length - right.length = run.2 := by omega
    simp only [hleft, hright, Ipv6.parse?, hcut, side?_piecesText, if_pos hfewer, hzeros,
      ← hpieces]
    exact ip.ofPieces?_pieces
  · have hcut : cutDoubleColon? (piecesText ip.pieces) = none := by
      simpa [cutDoubleColon?] using cutDoubleColon?_append ip.pieces []
    simp only [Ipv6.parse?, hcut, side?_piecesText, Option.bind_some]
    exact ip.ofPieces?_pieces

/-- A dotted quad is of digits and dots. -/
theorem Ipv4.mem_chars {ip : Ipv4} {c : Char} (h : c ∈ ip.chars) : isDigit c = true ∨ c = '.' := by
  have hdigit : ∀ n, c ∈ decimalText n → isDigit c = true := fun _ => isDigit_of_mem_toDigits
  simp only [Ipv4.chars, List.mem_append, List.mem_cons] at h
  grind

/-- A hexadecimal numeral is of hexadecimal digits. -/
theorem isHexDigit_of_mem_hexNumeral {c : Char} {n : Nat} (h : c ∈ hexNumeral n) :
    isHexDigit c = true := by
  obtain ⟨k, hk, hdigit⟩ := mem_toDigits (by decide) h
  rw [hdigit, isHexDigit, hexValue?_digitChar hk]
  rfl

/-- Pieces are written with hexadecimal digits and colons. -/
theorem mem_piecesText {ps : List UInt16} {c : Char} (h : c ∈ piecesText ps) :
    isHexDigit c = true ∨ c = ':' := by
  induction ps with
  | nil => cases h
  | cons p ps ih =>
    cases ps with
    | nil =>
      rw [piecesText_singleton] at h
      exact .inl (isHexDigit_of_mem_hexNumeral h)
    | cons q ps =>
      rw [piecesText_cons_cons, List.mem_append, List.mem_cons] at h
      rcases h with h | h | h
      · exact .inl (isHexDigit_of_mem_hexNumeral h)
      · exact .inr h
      · exact ih h

/-- An IPv6 address is written with hexadecimal digits and colons. -/
theorem Ipv6.mem_hexChars {ip : Ipv6} {c : Char} (h : c ∈ ip.hexChars) :
    isHexDigit c = true ∨ c = ':' := by
  unfold Ipv6.hexChars at h
  dsimp only at h
  split at h
  · simp only [List.mem_append, List.mem_cons, List.not_mem_nil, or_false, or_self] at h
    rcases h with (h | h) | h
    · exact mem_piecesText h
    · exact .inr h
    · exact mem_piecesText h
  · exact mem_piecesText h

/-- The same with the dots of a mapped address. -/
theorem Ipv6.mem_chars {ip : Ipv6} {c : Char} (h : c ∈ ip.chars) :
    isHexDigit c = true ∨ c = ':' ∨ c = '.' := by
  unfold Ipv6.chars at h
  split at h
  · rw [List.mem_append] at h
    rcases h with h | h
    · have hstart : "::ffff:".toList = [':', ':', 'f', 'f', 'f', 'f', ':'] := rfl
      simp only [hstart, List.mem_cons, List.not_mem_nil, or_false] at h
      rcases h with h | h | h | h | h | h | h <;> rw [h] <;> decide
    · rcases Ipv4.mem_chars h with hc | hc
      · obtain ⟨k, hk, hdigit⟩ := exists_of_isDigit hc
        left
        rw [hdigit, isHexDigit, hexValue?_digitChar (by omega)]
        rfl
      · exact .inr (.inr hc)
  · rcases Ipv6.mem_hexChars h with hc | hc
    · exact .inl hc
    · exact .inr (.inl hc)

/-- **A text without colons is no IPv6 address**: it has two pieces at
most. -/
theorem Ipv6.parse?_eq_none {cs : List Char} (h : ':' ∉ cs) : Ipv6.parse? cs = none := by
  have hcut : cutDoubleColon? cs = none := by
    simpa [cutDoubleColon?] using cutDoubleColon?_free h []
  simp only [Ipv6.parse?, hcut, side?, splitAt_eq_singleton h, pieceList?]
  split
  · rfl
  · split
    · rfl
    · cases Ipv4.parse? cs <;> rfl

/-! ## §5. Octets of an address. -/

/-- The two octets of a piece, high octet first. -/
def pieceOctets (p : UInt16) : Bytes := [UInt8.ofNat (p.toNat / 256), UInt8.ofNat (p.toNat % 256)]

theorem Ipv6.octets_eq (ip : Ipv6) : ip.octets = ip.pieces.flatMap pieceOctets := rfl

/-- The octets of a piece join to it again. -/
theorem join_pieceOctets (p : UInt16) :
    (UInt8.ofNat (p.toNat / 256)).toUInt16 * 256 + (UInt8.ofNat (p.toNat % 256)).toUInt16 = p := by
  have hlt : p.toNat < 65536 := p.toNat_lt
  apply UInt16.toNat_inj.mp
  simp only [UInt16.toNat_add, UInt16.toNat_mul, UInt8.toNat_toUInt16, UInt8.toNat_ofNat',
    UInt16.reduceToNat]
  omega

/-- Two octets are those of the piece that they join to. -/
theorem pieceOctets_join (hi lo : UInt8) :
    pieceOctets (hi.toUInt16 * 256 + lo.toUInt16) = [hi, lo] := by
  have hhi : hi.toNat < 256 := hi.toNat_lt
  have hlo : lo.toNat < 256 := lo.toNat_lt
  have hvalue : (hi.toUInt16 * 256 + lo.toUInt16).toNat = hi.toNat * 256 + lo.toNat := by
    simp only [UInt16.toNat_add, UInt16.toNat_mul, UInt8.toNat_toUInt16, UInt16.reduceToNat]
    omega
  have hdiv : (hi.toNat * 256 + lo.toNat) / 256 = hi.toNat := by omega
  have hmod : (hi.toNat * 256 + lo.toNat) % 256 = lo.toNat := by omega
  rw [pieceOctets, hvalue, hdiv, hmod, UInt8.ofNat_toNat, UInt8.ofNat_toNat]

/-- **The octets of an address join to its pieces.** -/
theorem Ipv6.joinOctets_octets (ip : Ipv6) : joinOctets ip.octets = ip.pieces := by
  rw [Ipv6.octets_eq]
  induction ip.pieces with
  | nil => rfl
  | cons p ps ih =>
    show joinOctets (pieceOctets p ++ ps.flatMap pieceOctets) = p :: ps
    rw [pieceOctets, List.cons_append, List.cons_append, List.nil_append, joinOctets,
      join_pieceOctets, ih]

/-- The pieces of octets in pairs, octet by octet. -/
theorem joinOctets_spec (bs : Bytes) : (joinOctets bs).length = bs.length / 2 ∧
    (bs.length % 2 = 0 → (joinOctets bs).flatMap pieceOctets = bs) := by
  induction bs using joinOctets.induct with
  | case1 hi lo rest ih =>
    simp only [joinOctets, List.length_cons, List.flatMap_cons, pieceOctets_join]
    constructor
    · rw [ih.1]
      omega
    · intro heven
      rw [ih.2 (by omega)]
      rfl
  | case2 bs hshort =>
    match bs, hshort with
    | [], _ => exact ⟨rfl, fun _ => rfl⟩
    | [_], _ => simp [joinOctets]
    | hi :: lo :: rest, hshort => exact absurd rfl (hshort hi lo rest)

/-- **Sixteen octets are an address**, and are the octets of it. -/
theorem Ipv6.ofOctets?_eq_some {bs : Bytes} (h : bs.length = 16) :
    ∃ ip, Ipv6.ofOctets? bs = some ip ∧ ip.octets = bs := by
  have hlength : (joinOctets bs).length = 8 := by rw [(joinOctets_spec bs).1, h]
  refine ⟨⟨joinOctets bs, hlength⟩, ?_, (joinOctets_spec bs).2 (by rw [h])⟩
  rw [Ipv6.ofOctets?, Ipv6.ofPieces?, dif_pos hlength]

/-- An address is known by its octets. -/
theorem Ipv6.octets_inj {a b : Ipv6} : a.octets = b.octets ↔ a = b := by
  constructor
  · intro h
    have hpieces : a.pieces = b.pieces := by
      rw [← a.joinOctets_octets, h, b.joinOctets_octets]
    cases a
    cases b
    cases hpieces
    rfl
  · intro h
    rw [h]

/-! ## §6. Mapped addresses. -/

/-- A mapped address has the IPv4 address in its last two pieces. -/
theorem Ipv6.pieces_of_mapped? {ip : Ipv6} {v4 : Ipv4} (h : ip.mapped? = some v4) :
    ip.pieces = List.replicate 5 0 ++ 0xFFFF :: joinOctets v4.octets := by
  unfold Ipv6.mapped? at h
  split at h
  · rename_i hi lo hpieces
    cases h
    rw [hpieces]
    simp only [Ipv4.octets, joinOctets, join_pieceOctets]
    rfl
  · cases h

/-- A dotted quad is no piece, but is read in the place of the last two. -/
theorem pieceList?_quad (v4 : Ipv4) : pieceList? true [v4.chars] = some (joinOctets v4.octets) := by
  have hpiece : piece? v4.chars = none := by
    have hdot : '.' ∈ v4.chars := by simp [Ipv4.chars]
    have hdigits : ¬ (v4.chars ≠ [] ∧ v4.chars.all isHexDigit = true) := by
      intro h
      exact absurd (List.all_eq_true.mp h.2 '.' hdot) (by decide)
    unfold piece? hexadecimal?
    rw [if_neg hdigits]
    split <;> rfl
  have hquad : Ipv4.parse? v4.chars = some v4 := Ipv4.parse?_eq_some_iff.mpr rfl
  simp only [pieceList?, hpiece, hquad, if_true, Option.map_some]
  rfl

/-- **A mapped address is read back from its dotted quad.** -/
theorem Ipv6.parse?_mapped {ip : Ipv6} {v4 : Ipv4} (h : ip.mapped? = some v4) :
    Ipv6.parse? ("::ffff:".toList ++ v4.chars) = some ip := by
  have hpieces := Ipv6.pieces_of_mapped? h
  have hquad : (joinOctets v4.octets).length = 2 := rfl
  have hfree : ':' ∉ v4.chars := by simp [Ipv4.chars, not_mem_decimalText (c := ':') rfl]
  have hsplit : splitAt ':' ("ffff:".toList ++ v4.chars) = ["ffff".toList, v4.chars] := by
    simp [splitAt, splitAt_eq_singleton hfree]
  -- The double colon stands in front, so nothing is on its left side.
  have hcut : cutDoubleColon? ("::ffff:".toList ++ v4.chars) =
      some ([], "ffff:".toList ++ v4.chars) := rfl
  have hleft : side? false [] = some [] := rfl
  have hright : side? true ("ffff:".toList ++ v4.chars) =
      some (0xFFFF :: joinOctets v4.octets) := by
    have hfirst : piece? "ffff".toList = some 0xFFFF := by decide
    rw [side?, if_neg (by simp), hsplit, pieceList?, hfirst, pieceList?_quad]
    simp
  have hread : Ipv6.ofPieces? (List.replicate 5 0 ++ 0xFFFF :: joinOctets v4.octets) = some ip := by
    rw [← hpieces]
    exact ip.ofPieces?_pieces
  simp only [Ipv6.parse?, hcut, hleft, hright, List.length_nil, List.length_cons, hquad]
  exact hread

/-- **An IPv6 address is read back from its text**, with or without a dotted
quad in it. -/
theorem Ipv6.parse?_chars (ip : Ipv6) : Ipv6.parse? ip.chars = some ip := by
  unfold Ipv6.chars
  split
  · rename_i v4 hmapped
    exact Ipv6.parse?_mapped hmapped
  · exact ip.parse?_hexChars

end LinkLayer

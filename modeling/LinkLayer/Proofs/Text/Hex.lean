/-
  LinkLayer.Proofs.Text.Hex
  ─────────────────────────
  **HEXADECIMAL TEXT, WRITTEN AND READ.**

  An octet is two halves, and each half is written by a digit.  So a text of
  digits is a list of halves (`halves`), whether it is written or read, and
  whether it is taken as characters or as their octets.

    • `decode_eq_ok_iff` — **a text is read as some octets exactly if it is
      what is written for them, but for the case of its letters**,
    • `decode_isOk_iff` — it is read at all exactly if it is **an even number
      of digits**,
    • `decode_encode`, `encode_inj` — so octets are read back from their text,
    • `encode_lt` — and **texts are in the order of the octets**.
-/
import LinkLayer.Proofs.Text.Blank
import LinkLayer.Proofs.Text.Bytes
import LinkLayer.Text.Hex
import LinkLayer.Text.Numeral
import Mathlib.Data.List.Lex
import Mathlib.Data.String.Basic

namespace LinkLayer.Text.Hex

/-! ## §1. Digits. -/

/-- The digit of a half, and what it is read as. -/
theorem hexValue?_hexDigit {n : Nat} (h : n < 16) : hexValue? (hexDigit n) = some n := by
  revert n
  decide

theorem toLower_hexDigit {n : Nat} (h : n < 16) : (hexDigit n).toLower = hexDigit n := by
  revert n
  decide

theorem hexDigit_inj {m n : Nat} (hm : m < 16) (hn : n < 16) :
    hexDigit m = hexDigit n ↔ m = n := by
  constructor
  · intro h
    have hvalue := hexValue?_hexDigit hm
    rw [h, hexValue?_hexDigit hn, Option.some.injEq] at hvalue
    exact hvalue.symm
  · intro h
    rw [h]

/-- Digits come in the order of the halves. -/
theorem hexDigit_lt {m n : Nat} (hm : m < 16) (hn : n < 16) :
    hexDigit m < hexDigit n ↔ m < n := by
  have hall : ∀ m < 16, ∀ n < 16, hexDigit m < hexDigit n ↔ m < n := by decide
  exact hall m hm n hn

/-- Outside ASCII there is no digit. -/
theorem hexValue?_high {c : Char} (h : 128 ≤ c.toNat) : hexValue? c = none := by
  have hle : ∀ d : Char, d.toNat < 128 → ¬ c ≤ d := by
    intro d hd hcd
    have : c.toNat ≤ d.toNat := hcd
    omega
  simp [hexValue?, hle '9' (by decide), hle 'f' (by decide), hle 'F' (by decide)]

theorem ascii_of_hexValue? {c : Char} {n : Nat} (h : hexValue? c = some n) : c.toNat < 128 := by
  by_contra hc
  rw [hexValue?_high (by omega)] at h
  cases h

/-- A digit of either case is the one of its value, but for the case. -/
theorem hexValue?_eq_some_iff {c : Char} {n : Nat} (hn : n < 16) :
    hexValue? c = some n ↔ c.toLower = hexDigit n := by
  by_cases hc : c.toNat < 128
  · have hall : ∀ n < 16, hexValue? c = some n ↔ c.toLower = hexDigit n :=
      of_ascii c hc (by decide +kernel)
    exact hall n hn
  · -- A character outside ASCII has no other case, and is no digit.
    have hlower : c.toLower = c := by
      have hbig : ¬ c.val ≤ 'Z'.val := by
        intro hle
        have : c.toNat ≤ 'Z'.toNat := hle
        exact hc (Nat.lt_of_le_of_lt this (by decide))
      exact dif_neg fun h => hbig h.2
    have hdigit : (hexDigit n).toNat < 128 := ascii_of_hexValue? (hexValue?_hexDigit hn)
    rw [hexValue?_high (by omega), hlower]
    constructor
    · intro h
      cases h
    · intro h
      rw [h] at hc
      exact absurd hdigit hc

theorem hexValue?_lt {c : Char} {n : Nat} (h : hexValue? c = some n) : n < 16 := by
  have hbound : ∀ n ∈ hexValue? c, n < 16 := of_ascii c (ascii_of_hexValue? h) (by decide)
  exact hbound n h

/-- The octet of an ASCII character is the digit that the character is. -/
theorem digitValue?_ascii {c : Char} (h : c.toNat < 128) :
    digitValue? (UInt8.ofNat c.toNat) = hexValue? c :=
  of_ascii c h (by decide)

theorem digitValue?_high {b : UInt8} (h : 128 ≤ b.toNat) : digitValue? b = none := by
  simp only [digitValue?]
  rw [if_neg (by omega), if_neg (by omega), if_neg (by omega)]

theorem digitValue?_lt {b : UInt8} {n : Nat} (h : digitValue? b = some n) : n < 16 := by
  simp only [digitValue?] at h
  split at h
  · cases h
    omega
  split at h
  · cases h
    omega
  split at h
  · cases h
    omega
  · cases h

/-! ## §2. Halves. -/

/-- The two halves of an octet. -/
def halves (b : UInt8) : List Nat := [b.toNat / 16, b.toNat % 16]

theorem lt_of_mem_halves {bs : Bytes} {n : Nat} (h : n ∈ bs.flatMap halves) : n < 16 := by
  obtain ⟨b, -, hn⟩ := List.mem_flatMap.mp h
  simp only [halves, List.mem_cons, List.not_mem_nil, or_false] at hn
  rcases hn with rfl | rfl
  · exact octet_high_lt b
  · exact octet_low_lt b

theorem length_halves (bs : Bytes) : (bs.flatMap halves).length = 2 * bs.length := by
  induction bs with
  | nil => rfl
  | cons b bs ih =>
    rw [List.flatMap_cons, List.length_append, ih, List.length_cons]
    simp only [halves, List.length_cons, List.length_nil]
    omega

/-- An even number of halves makes octets. -/
theorem exists_halves (ns : List Nat) (heven : ns.length % 2 = 0) (hlt : ∀ n ∈ ns, n < 16) :
    ∃ bs : Bytes, bs.flatMap halves = ns := by
  match ns with
  | [] => exact ⟨[], rfl⟩
  | [n] => simp at heven
  | hi :: lo :: rest =>
    simp only [List.forall_mem_cons] at hlt
    obtain ⟨hhi, hlo, hrest⟩ := hlt
    have hrestEven : rest.length % 2 = 0 := by
      rw [List.length_cons, List.length_cons] at heven
      omega
    obtain ⟨bs, hbs⟩ := exists_halves rest hrestEven hrest
    obtain ⟨hhigh, hlow⟩ := (octet_eq_iff hhi hlo (b := UInt8.ofNat (hi * 16 + lo))).mp rfl
    refine ⟨UInt8.ofNat (hi * 16 + lo) :: bs, ?_⟩
    rw [List.flatMap_cons, hbs, halves, ← hhigh, ← hlow]
    rfl

/-- What is written for some octets is the digits of their halves. -/
theorem toList_encode (bs : Bytes) : (encode bs).toList = (bs.flatMap halves).map hexDigit := by
  rw [encode, String.toList_ofList, List.map_flatMap]
  rfl

/-- **Pairs of digits are read as octets if their values are the halves.** -/
theorem decodePairs_eq_ok_iff {i : Nat} {digits bs : Bytes} :
    decodePairs i digits = .ok bs ↔ digits.map digitValue? = (bs.flatMap halves).map some := by
  fun_induction decodePairs i digits generalizing bs with
  | case1 => cases bs <;> simp [halves]
  | case2 => cases bs <;> simp [halves]
  | case3 i hi lo rest hhi => cases bs <;> simp [halves, hhi]
  | case4 i hi lo rest h hhi hlo => cases bs <;> simp [halves, hlo]
  | case5 i hi lo rest h hhi l hlo e herror ih =>
    cases bs with
    | nil => simp
    | cons b bs =>
      have hrest : rest.map digitValue? ≠ (bs.flatMap halves).map some := fun heq => by
        rw [ih.mpr heq] at herror
        cases herror
      simp [halves, hrest]
  | case6 i hi lo rest h hhi l hlo octets hok ih =>
    cases bs with
    | nil => simp
    | cons b bs =>
      have hoctet := octet_eq_iff (digitValue?_lt hhi) (digitValue?_lt hlo) (b := b)
      have hrest : octets = bs ↔ rest.map digitValue? = (bs.flatMap halves).map some := by
        rw [← ih, hok, Except.ok.injEq]
      rw [Except.ok.injEq, List.cons.injEq, hoctet, hrest]
      simp [halves, hhi, hlo, and_assoc]

/-- **Octets of a text have the values that its characters have.** -/
theorem map_digitValue?_utf8Chars {cs : List Char} {ns : List Nat} :
    (utf8Chars cs).map digitValue? = ns.map some ↔ cs.map hexValue? = ns.map some := by
  induction cs generalizing ns with
  | nil => rfl
  | cons c cs ih =>
    rw [utf8Chars_cons]
    by_cases hc : c.toNat < 128
    · rw [utf8EncodeChar_ascii hc]
      cases ns with
      | nil => simp
      | cons n ns => simp [digitValue?_ascii hc, ih]
    · -- Neither the character nor its first octet is a digit.
      obtain ⟨b, bs, hoctets, hb⟩ := utf8EncodeChar_high (Nat.not_lt.mp hc)
      rw [hoctets]
      cases ns with
      | nil => simp
      | cons n ns => simp [digitValue?_high hb, hexValue?_high (Nat.not_lt.mp hc)]

/-- Characters have some values if they are the digits of these, but for the
case. -/
theorem map_hexValue?_iff {cs : List Char} {ns : List Nat} (h : ∀ n ∈ ns, n < 16) :
    cs.map hexValue? = ns.map some ↔ cs.map Char.toLower = ns.map hexDigit := by
  induction cs generalizing ns with
  | nil => cases ns <;> simp
  | cons c cs ih =>
    cases ns with
    | nil => simp
    | cons n ns =>
      rw [List.forall_mem_cons] at h
      simp [hexValue?_eq_some_iff h.1, ih h.2]

/-! ## §3. Reading. -/

/-- A text in small letters. -/
theorem toList_toLower (s : String) : s.toLower.toList = s.toList.map Char.toLower :=
  String.toList_map

theorem length_toLower (s : String) : s.toLower.length = s.length := by
  rw [← String.length_toList, toList_toLower, List.length_map, String.length_toList]

/-- A text is that of some octets if its digits have the values of their
halves. -/
theorem toLower_eq_encode_iff {s : String} {bs : Bytes} :
    s.toLower = encode bs ↔ (utf8 s).map digitValue? = (bs.flatMap halves).map some := by
  rw [← String.toList_inj, toList_toLower, toList_encode, utf8, map_digitValue?_utf8Chars,
    map_hexValue?_iff fun n => lt_of_mem_halves]

/-- **A text is read as some octets exactly if it is what is written for them,
but for the case of its letters.** -/
theorem decode_eq_ok_iff {s : String} {bs : Bytes} : decode s = .ok bs ↔ s.toLower = encode bs := by
  rw [toLower_eq_encode_iff]
  simp only [decode]
  split
  · rename_i hodd
    constructor
    · intro h
      cases h
    · intro h
      have hlength := congrArg List.length h
      rw [List.length_map, List.length_map, length_halves] at hlength
      omega
  · exact decodePairs_eq_ok_iff

/-- **A text is read at all exactly if it is an even number of digits.** -/
theorem decode_isOk_iff {s : String} : (∃ bs, decode s = .ok bs) ↔
    s.length % 2 = 0 ∧ ∀ c ∈ s.toList, isHexDigit c = true := by
  simp only [decode_eq_ok_iff, ← String.length_toList]
  constructor
  · rintro ⟨bs, hbs⟩
    rw [← String.toList_inj, toList_toLower, toList_encode,
      ← map_hexValue?_iff fun n => lt_of_mem_halves] at hbs
    constructor
    · have hlength := congrArg List.length hbs
      rw [List.length_map, List.length_map, length_halves] at hlength
      omega
    · intro c hc
      have hvalue := List.mem_map_of_mem (f := hexValue?) hc
      rw [hbs] at hvalue
      obtain ⟨n, -, hn⟩ := List.mem_map.mp hvalue
      rw [isHexDigit, ← hn]
      rfl
  · rintro ⟨heven, hdigits⟩
    -- The values of the digits, which are halves.
    have hvalues : s.toList.map hexValue? = (s.toList.filterMap hexValue?).map some := by
      generalize s.toList = cs at hdigits
      induction cs with
      | nil => rfl
      | cons c cs ih =>
        rw [List.forall_mem_cons] at hdigits
        obtain ⟨n, hn⟩ := Option.isSome_iff_exists.mp hdigits.1
        rw [List.map_cons, List.filterMap_cons_some hn, List.map_cons, hn, ih hdigits.2]
    have hlt : ∀ n ∈ s.toList.filterMap hexValue?, n < 16 := by
      intro n hn
      obtain ⟨c, -, hc⟩ := List.mem_filterMap.mp hn
      exact hexValue?_lt hc
    have hlength := congrArg List.length hvalues
    rw [List.length_map, List.length_map] at hlength
    obtain ⟨bs, hbs⟩ := exists_halves _ (hlength ▸ heven) hlt
    refine ⟨bs, ?_⟩
    rw [← String.toList_inj, toList_toLower, toList_encode, hbs, ← map_hexValue?_iff hlt, hvalues]

/-! ## §4. Writing. -/

theorem length_encode (bs : Bytes) : (encode bs).length = 2 * bs.length := by
  rw [← String.length_toList, toList_encode, List.length_map, length_halves]

/-- What is written is digits, in small letters. -/
theorem mem_encode {bs : Bytes} {c : Char} (h : c ∈ (encode bs).toList) :
    c ∈ "0123456789abcdef".toList := by
  have hdigits : ∀ n < 16, hexDigit n ∈ "0123456789abcdef".toList := by decide
  rw [toList_encode] at h
  obtain ⟨n, hn, rfl⟩ := List.mem_map.mp h
  exact hdigits n (lt_of_mem_halves hn)

theorem toLower_encode (bs : Bytes) : (encode bs).toLower = encode bs := by
  rw [← String.toList_inj, toList_toLower, toList_encode, List.map_map]
  refine List.map_congr_left fun n hn => ?_
  exact toLower_hexDigit (lt_of_mem_halves hn)

/-- **Octets are read back from their text.** -/
theorem decode_encode (bs : Bytes) : decode (encode bs) = .ok bs :=
  decode_eq_ok_iff.mpr (toLower_encode bs)

/-- No two byte strings have one text. -/
theorem encode_inj {as bs : Bytes} : encode as = encode bs ↔ as = bs := by
  constructor
  · intro h
    have hread := decode_encode as
    rw [h, decode_encode, Except.ok.injEq] at hread
    exact hread.symm
  · intro h
    rw [h]

theorem toList_encode_append (as bs : Bytes) :
    (encode (as ++ bs)).toList = (encode as).toList ++ (encode bs).toList := by
  simp only [toList_encode, List.flatMap_append, List.map_append]

/-- White space is never part of what is written. -/
theorem trim_encode (bs : Bytes) : trim (encode bs) = encode bs := by
  have hnone : "0123456789abcdef".toList.any isBlank = false := by decide
  exact trim_eq_self fun c hc =>
    Bool.eq_false_iff.mpr (List.any_eq_false.mp hnone c (mem_encode hc))

/-- **Texts are in the order of the octets.** -/
theorem encode_lt {as bs : Bytes} : encode as < encode bs ↔ as < bs := by
  rw [String.lt_iff_toList_lt, toList_encode, toList_encode]
  induction as generalizing bs with
  | nil =>
    cases bs with
    | nil => simp
    | cons b bs => simp [halves]
  | cons a as ih =>
    cases bs with
    | nil => simp
    | cons b bs =>
      -- The first half that differs decides, for digits as it does for octets.
      rw [List.cons_lt_cons_iff, octet_lt_iff, octet_ext_iff, ← ih]
      simp only [List.flatMap_cons, halves, List.cons_append, List.nil_append, List.map_cons,
        List.cons_lt_cons_iff, hexDigit_lt (octet_high_lt a) (octet_high_lt b),
        hexDigit_lt (octet_low_lt a) (octet_low_lt b),
        hexDigit_inj (octet_high_lt a) (octet_high_lt b),
        hexDigit_inj (octet_low_lt a) (octet_low_lt b), and_or_left, or_assoc, and_assoc]

end LinkLayer.Text.Hex

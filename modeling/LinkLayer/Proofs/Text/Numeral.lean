/-
  LinkLayer.Proofs.Text.Numeral
  ─────────────────────────────
  **NUMERALS AND SEPARATORS, WRITTEN AND READ.**

  A number is written by its digits, and read back from them:

    • `decimal?_toDigits`, `hexadecimal?_toDigits` — the digits of a number
      are read as that number,
    • `eq_toDigits_of_decimal?` — **a decimal numeral without leading zeros
      is the one that is written** for its value,
    • `boundedDecimal?_eq_some_iff` — **what a bounded numeral is**: digits,
      perhaps behind a plus sign (`IsNumeral`).

  A text is split at a separator, and put together again:

    • `splitAt_eq_splitOn` — splitting is that of the library,
    • `cutFirst?_append`, `cutLast?_append` — cutting at a separator that one
      of the two sides is free of.
-/
import LinkLayer.Text.Numeral
import Mathlib.Data.List.Induction

namespace LinkLayer.Text

/-! ## §1. Digits. -/

/-- The digits of base ten. -/
theorem digitChar_lt_ten {k : Nat} (h : k < 10) :
    isDigit k.digitChar = true ∧ k.digitChar.toNat - 48 = k := by
  revert k
  decide

/-- The digits of base sixteen. -/
theorem hexValue?_digitChar {k : Nat} (h : k < 16) : hexValue? k.digitChar = some k := by
  revert k
  decide

/-- The decimal digits are the ten characters from `0` on. -/
theorem exists_of_isDigit {c : Char} (h : isDigit c = true) : ∃ k < 10, c = Nat.digitChar k := by
  simp only [isDigit, Bool.and_eq_true, decide_eq_true_eq, Char.le_def,
    UInt32.le_iff_toNat_le] at h
  have hlo : 48 ≤ c.toNat := h.1
  have hhi : c.toNat ≤ 57 := h.2
  have hdigits : ∀ k < 10, Char.ofNat (48 + k) = k.digitChar := by decide
  refine ⟨c.toNat - 48, by omega, ?_⟩
  rw [← hdigits _ (by omega), Nat.add_sub_cancel' hlo, Char.ofNat_toNat]

/-! ## §2. Numerals. -/

theorem decimalValue_concat (ds : List Char) (c : Char) :
    decimalValue (ds ++ [c]) = decimalValue ds * 10 + (c.toNat - 48) := by
  simp [decimalValue]

theorem digitsValue_concat (base : Nat) (ds : List Char) (c : Char) :
    digitsValue base (ds ++ [c]) = digitsValue base ds * base + (hexValue? c).getD 0 := by
  simp [digitsValue]

/-- Every digit of a number is a digit of its base. -/
theorem mem_toDigits {base n : Nat} {c : Char} (hbase : 1 < base) (h : c ∈ Nat.toDigits base n) :
    ∃ k < base, c = k.digitChar := by
  induction n using Nat.strongRecOn with
  | ind n ih =>
    rw [Nat.toDigits_eq_if hbase] at h
    split at h
    · rename_i hn
      exact ⟨n, hn, List.mem_singleton.mp h⟩
    · rename_i hn
      rcases List.mem_append.mp h with h | h
      · exact ih _ (Nat.div_lt_self (by omega) hbase) h
      · exact ⟨n % base, Nat.mod_lt _ (by omega), List.mem_singleton.mp h⟩

theorem decimalValue_toDigits (n : Nat) : decimalValue (Nat.toDigits 10 n) = n := by
  have h := @Nat.ofDigitChars_ten_toDigits n
  rw [Nat.ofDigitChars_eq_foldl] at h
  simp only [Nat.mul_comm 10] at h
  exact h

theorem digitsValue_toDigits (n : Nat) : digitsValue 16 (Nat.toDigits 16 n) = n := by
  induction n using Nat.strongRecOn with
  | ind n ih =>
    rw [Nat.toDigits_eq_if (by decide)]
    split
    · rename_i hn
      simp [digitsValue, hexValue?_digitChar hn]
    · rename_i hn
      rw [digitsValue_concat, ih _ (Nat.div_lt_self (by omega) (by decide)),
        hexValue?_digitChar (Nat.mod_lt _ (by decide)), Option.getD_some, Nat.mul_comm]
      exact Nat.div_add_mod n 16

theorem isDigit_of_mem_toDigits {c : Char} {n : Nat} (h : c ∈ Nat.toDigits 10 n) :
    isDigit c = true := by
  obtain ⟨k, hk, rfl⟩ := mem_toDigits (by decide) h
  exact (digitChar_lt_ten hk).1

/-- **The decimal digits of a number are read as that number.** -/
theorem decimal?_toDigits (n : Nat) : decimal? (Nat.toDigits 10 n) = some n := by
  have hall : (Nat.toDigits 10 n).all isDigit = true :=
    List.all_eq_true.mpr fun _ => isDigit_of_mem_toDigits
  rw [decimal?, if_pos ⟨Nat.toDigits_ne_nil, hall⟩, decimalValue_toDigits]

/-- **The hexadecimal digits of a number are read as that number.** -/
theorem hexadecimal?_toDigits (n : Nat) : hexadecimal? (Nat.toDigits 16 n) = some n := by
  have hall : (Nat.toDigits 16 n).all isHexDigit = true := by
    rw [List.all_eq_true]
    intro c hc
    obtain ⟨k, hk, rfl⟩ := mem_toDigits (by decide) hc
    rw [isHexDigit, hexValue?_digitChar hk]
    rfl
  rw [hexadecimal?, if_pos ⟨Nat.toDigits_ne_nil, hall⟩, digitsValue_toDigits]

/-- A numeral that does not begin with a zero is not worth zero. -/
theorem decimalValue_pos {c : Char} {ds : List Char} (hc : isDigit c = true) (h0 : c ≠ '0') :
    0 < decimalValue (c :: ds) := by
  induction ds using List.reverseRecOn with
  | nil =>
    obtain ⟨k, hk, rfl⟩ := exists_of_isDigit hc
    have hpos : k ≠ 0 := fun hz => h0 (by rw [hz]; rfl)
    have hvalue := (digitChar_lt_ten hk).2
    simp only [decimalValue, List.foldl_cons, List.foldl_nil]
    omega
  | append_singleton ds d ih =>
    rw [← List.cons_append, decimalValue_concat]
    omega

/-- **A list of decimal digits without leading zeros is the one that is
written for its value.** -/
theorem toDigits_decimalValue {cs : List Char} (hne : cs ≠ []) (hall : cs.all isDigit = true)
    (hzero : cs.head? = some '0' → cs = ['0']) : Nat.toDigits 10 (decimalValue cs) = cs := by
  induction cs using List.reverseRecOn with
  | nil => exact absurd rfl hne
  | append_singleton ds c ih =>
    rw [List.all_append, Bool.and_eq_true] at hall
    have hlast : isDigit c = true := List.all_eq_true.mp hall.2 c (List.mem_singleton_self c)
    obtain ⟨k, hk, rfl⟩ := exists_of_isDigit hlast
    rw [decimalValue_concat, (digitChar_lt_ten hk).2]
    cases ds with
    | nil => simp [decimalValue, Nat.toDigits_of_lt_base hk]
    | cons d ds =>
      -- The digits before the last one begin with the same digit.
      have hd : d ≠ '0' := fun hd => by simpa [hd] using hzero (by simp [hd])
      have hdigit : isDigit d = true := List.all_eq_true.mp hall.1 d List.mem_cons_self
      have hpos : 0 < decimalValue (d :: ds) := decimalValue_pos hdigit hd
      rw [Nat.mul_comm, ← Nat.toDigits_append_toDigits (by decide) hpos hk,
        ih (by simp) hall.1 (fun h => absurd (by simpa using h) hd), Nat.toDigits_of_lt_base hk]

/-- **A decimal numeral without leading zeros is the one that is written for
what it is read as.** -/
theorem eq_toDigits_of_decimal? {cs : List Char} {n : Nat} (h : decimal? cs = some n)
    (hzero : cs.head? = some '0' → cs = ['0']) : cs = Nat.toDigits 10 n := by
  rw [decimal?] at h
  split at h
  · rename_i hcs
    cases h
    exact (toDigits_decimalValue hcs.1 hcs.2 hzero).symm
  · cases h

/-- No number but zero is written with a leading zero. -/
theorem head?_toDigits {n : Nat} (h : (Nat.toDigits 10 n).head? = some '0') : n = 0 := by
  induction n using Nat.strongRecOn with
  | ind n ih =>
    rw [Nat.toDigits_eq_if (by decide)] at h
    split at h
    · rename_i hn
      have hdigits : ∀ k < 10, Nat.digitChar k = '0' → k = 0 := by decide
      exact hdigits n hn (by simpa using h)
    · rename_i hn
      obtain ⟨d, ds, hds⟩ := List.exists_cons_of_ne_nil (@Nat.toDigits_ne_nil (n / 10) 10)
      have hsmaller : n / 10 < n := Nat.div_lt_self (by omega) (by decide)
      have := ih (n / 10) hsmaller (by simpa [hds] using h)
      omega

/-- A decimal numeral for a number: digits, at least one of them, with or
without a plus sign in front.  The first digits may be zeros. -/
def IsNumeral (cs : List Char) (n : Nat) : Prop :=
  ∃ digits, (cs = digits ∨ cs = '+' :: digits) ∧ digits ≠ [] ∧
    (∀ c ∈ digits, '0' ≤ c ∧ c ≤ '9') ∧ Nat.ofDigitChars 10 digits 0 = n

/-- A non-empty list of digits is worth what the library says. -/
theorem decimal?_eq_some_iff {cs : List Char} {n : Nat} : decimal? cs = some n ↔
    cs ≠ [] ∧ (∀ c ∈ cs, '0' ≤ c ∧ c ≤ '9') ∧ Nat.ofDigitChars 10 cs 0 = n := by
  have hvalue : decimalValue cs = Nat.ofDigitChars 10 cs 0 := by
    rw [Nat.ofDigitChars_eq_foldl]
    simp only [Nat.mul_comm 10]
    rfl
  have hdigits : cs.all isDigit = true ↔ ∀ c ∈ cs, '0' ≤ c ∧ c ≤ '9' := by
    simp [isDigit]
  unfold decimal?
  simp only [hdigits, hvalue]
  by_cases hcs : cs ≠ [] ∧ ∀ c ∈ cs, '0' ≤ c ∧ c ≤ '9'
  · rw [if_pos hcs, Option.some.injEq]
    exact ⟨fun h => ⟨hcs.1, hcs.2, h⟩, fun h => h.2.2⟩
  · rw [if_neg hcs]
    constructor
    · intro h
      cases h
    · intro h
      exact absurd ⟨h.1, h.2.1⟩ hcs

/-- A numeral that is read is looked at for its bound. -/
theorem filter_decimal? (bound : Nat) (digits : List Char) :
    (match decimal? digits with
      | some n => if n ≤ bound then some n else none
      | none => none) = (decimal? digits).filter (· ≤ bound) := by
  cases decimal? digits <;> simp [Option.filter]

/-- A plus sign in front of a numeral does not count. -/
theorem boundedDecimal?_plus (bound : Nat) (rest : List Char) :
    boundedDecimal? bound ('+' :: rest) = (decimal? rest).filter (· ≤ bound) :=
  filter_decimal? bound rest

theorem boundedDecimal?_plain (bound : Nat) {cs : List Char} (h : ∀ rest, cs ≠ '+' :: rest) :
    boundedDecimal? bound cs = (decimal? cs).filter (· ≤ bound) := by
  unfold boundedDecimal?
  split
  · exact absurd rfl (h _)
  · exact filter_decimal? bound cs

/-- **A bounded numeral is read exactly if it is one, and within the
bound.** -/
theorem boundedDecimal?_eq_some_iff {bound n : Nat} {cs : List Char} :
    boundedDecimal? bound cs = some n ↔ IsNumeral cs n ∧ n ≤ bound := by
  -- The plus sign is no digit, so a numeral behind it is the whole of what it is in front of.
  by_cases hplus : ∃ rest, cs = '+' :: rest
  · obtain ⟨rest, hrest⟩ := hplus
    rw [hrest, boundedDecimal?_plus, Option.filter_eq_some_iff, decimal?_eq_some_iff,
      decide_eq_true_eq]
    constructor
    · intro h
      exact ⟨⟨rest, .inr rfl, h.1⟩, h.2⟩
    · intro h
      obtain ⟨⟨digits, hcs | hcs, hdigits⟩, hbound⟩ := h
      · rw [← hcs] at hdigits
        exact absurd (hdigits.2.1 '+' List.mem_cons_self).1 (by decide)
      · cases hcs
        exact ⟨hdigits, hbound⟩
  · have hplain : ∀ rest, cs ≠ '+' :: rest := fun rest hrest => hplus ⟨rest, hrest⟩
    rw [boundedDecimal?_plain bound hplain, Option.filter_eq_some_iff, decimal?_eq_some_iff,
      decide_eq_true_eq]
    constructor
    · intro h
      exact ⟨⟨cs, .inl rfl, h.1⟩, h.2⟩
    · intro h
      obtain ⟨⟨digits, hcs | hcs, hdigits⟩, hbound⟩ := h
      · rw [← hcs] at hdigits
        exact ⟨hdigits, hbound⟩
      · exact absurd hcs (hplain digits)

/-! ## §3. Separators. -/

/-- Splitting at a separator is that of the library. -/
theorem splitAt_eq_splitOn (sep : Char) (cs : List Char) : splitAt sep cs = cs.splitOn sep := by
  induction cs with
  | nil => rfl
  | cons c cs ih =>
    obtain ⟨part, parts, hparts⟩ := List.exists_cons_of_ne_nil (List.splitOn_ne_nil sep cs)
    simp only [splitAt, ih, List.splitOn_cons_eq_if_modifyHead, hparts, beq_iff_eq,
      List.modifyHead_cons]

/-- A list without the separator is one part. -/
theorem splitAt_eq_singleton {sep : Char} {cs : List Char} (h : sep ∉ cs) :
    splitAt sep cs = [cs] := by
  rw [splitAt_eq_splitOn]
  exact List.splitOn_eq_singleton h

/-- **The parts of a split are made of the list, without the separator.** -/
theorem not_mem_of_mem_splitAt {sep : Char} {cs part : List Char} (h : part ∈ splitAt sep cs) :
    sep ∉ part ∧ ∀ c ∈ part, c ∈ cs := by
  induction cs generalizing part with
  | nil =>
    rw [splitAt, List.mem_singleton] at h
    rw [h]
    simp
  | cons d cs ih =>
    have hcons : ∀ {p : List Char}, p ∈ splitAt sep cs → sep ∉ p ∧ ∀ c ∈ p, c ∈ d :: cs := by
      intro p hp
      exact ⟨(ih hp).1, fun c hc => List.mem_cons_of_mem d ((ih hp).2 c hc)⟩
    rw [splitAt] at h
    split at h
    · rcases List.mem_cons.mp h with hpart | hpart
      · rw [hpart]
        simp
      · exact hcons hpart
    · rename_i hsep
      split at h
      · rw [List.mem_singleton.mp h]
        simpa using Ne.symm hsep
      · rename_i first rest hsplit
        rcases List.mem_cons.mp h with hpart | hpart
        · have hfirst := hcons (p := first) (by rw [hsplit]; exact List.mem_cons_self)
          rw [hpart]
          refine ⟨?_, ?_⟩
          · rw [List.mem_cons, not_or]
            exact ⟨Ne.symm hsep, hfirst.1⟩
          · rw [List.forall_mem_cons]
            exact ⟨List.mem_cons_self, hfirst.2⟩
        · exact hcons (by rw [hsplit]; exact List.mem_cons_of_mem first hpart)

theorem cutFirst?_append {sep : Char} {before : List Char} (h : sep ∉ before) (after : List Char) :
    cutFirst? sep (before ++ sep :: after) = some (before, after) := by
  induction before with
  | nil => simp [cutFirst?]
  | cons c before ih =>
    have hc : c ≠ sep := fun hc => h (by simp [hc])
    simp [cutFirst?, hc, ih fun hmem => h (List.mem_cons_of_mem c hmem)]

theorem cutFirst?_eq_none {sep : Char} {cs : List Char} (h : sep ∉ cs) :
    cutFirst? sep cs = none := by
  induction cs with
  | nil => rfl
  | cons c cs ih =>
    have hc : c ≠ sep := fun hc => h (by simp [hc])
    simp [cutFirst?, hc, ih fun hmem => h (List.mem_cons_of_mem c hmem)]

theorem cutLast?_append {sep : Char} (before : List Char) {after : List Char} (h : sep ∉ after) :
    cutLast? sep (before ++ sep :: after) = some (before, after) := by
  have hafter : sep ∉ after.reverse := fun hmem => h (List.mem_reverse.mp hmem)
  simp [cutLast?, cutFirst?_append hafter]

theorem cutLast?_eq_none {sep : Char} {cs : List Char} (h : sep ∉ cs) : cutLast? sep cs = none := by
  rw [cutLast?, cutFirst?_eq_none fun hmem => h (List.mem_reverse.mp hmem)]
  rfl

end LinkLayer.Text

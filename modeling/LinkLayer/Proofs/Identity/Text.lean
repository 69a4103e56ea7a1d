/-
  LinkLayer.Proofs.Identity.Text
  ──────────────────────────────
  **THE TEXT OF AN IDENTITY.**

  An identity is written as sixty-four small hexadecimal digits.  It is read
  from digits of either case with white space around them, and from nothing
  else.

    • `parse_eq_ok_iff`, `parse_isOk_iff` — **which texts are read, and as
      what**,
    • `le_iff` — identities are in the order of their octets,
    • `text_lt_iff` — **and so are their texts**,
    • `text_faithful` — the same, as one statement, with the error of a text
      that is refused.
-/
import LinkLayer.Proofs.Text.Hex
import LinkLayer.Settings
import LinkLayer.Text.Basic

namespace LinkLayer

open LinkLayer.Text

namespace Identity

variable {s : String} {k : Identity}

/-! ## §1. Reading. -/

theorem ofBytes?_eq_some_iff {bs : Bytes} : ofBytes? bs = some k ↔ bs = k.bytes := by
  unfold ofBytes?
  split
  · rename_i hlength
    rw [Option.some.injEq]
    constructor
    · rintro rfl
      rfl
    · rintro rfl
      rfl
  · rename_i hlength
    constructor
    · intro h
      cases h
    · rintro rfl
      exact absurd k.length_eq hlength

/-- **A text is read as the identity whose text it is**, but for the case of
letters and the white space at its ends. -/
theorem parse_eq_ok_iff : parse s = .ok k ↔ (trim s).toLower = k.text := by
  rw [text, ← Hex.decode_eq_ok_iff, parse]
  cases Hex.decode (trim s) with
  | error e => simp
  | ok bs =>
    rw [Except.ok.injEq, ← ofBytes?_eq_some_iff]
    cases hk : ofBytes? bs <;> simp [hk]

theorem length_text (k : Identity) : k.text.length = 64 := by
  rw [text, Hex.length_encode, k.length_eq]
  rfl

/-- **A text is read exactly if it is sixty-four digits.** -/
theorem parse_isOk_iff : (∃ k, parse s = .ok k) ↔
    (trim s).length = 64 ∧ ∀ c ∈ (trim s).toList, isHexDigit c = true := by
  constructor
  · rintro ⟨k, hk⟩
    rw [parse_eq_ok_iff] at hk
    obtain ⟨-, hdigits⟩ := Hex.decode_isOk_iff.mp ⟨k.bytes, Hex.decode_eq_ok_iff.mpr hk⟩
    refine ⟨?_, hdigits⟩
    rw [← Hex.length_toLower, hk, length_text]
  · rintro ⟨hlength, hdigits⟩
    obtain ⟨bs, hbs⟩ := Hex.decode_isOk_iff.mpr ⟨by rw [hlength], hdigits⟩
    rw [Hex.decode_eq_ok_iff] at hbs
    have hbytes : bs.length = publicKeyLength := by
      have htwice := Hex.length_encode bs
      rw [← hbs, Hex.length_toLower, hlength] at htwice
      unfold publicKeyLength
      omega
    exact ⟨⟨bs, hbytes⟩, parse_eq_ok_iff.mpr hbs⟩

/-- An identity is read back from its text. -/
theorem parse_text (k : Identity) : parse k.text = .ok k := by
  rw [parse_eq_ok_iff, text, Hex.trim_encode, Hex.toLower_encode]

/-! ## §2. Order. -/

theorem lexLE_iff {as bs : Bytes} : lexLE as bs = true ↔ as ≤ bs := by
  induction as generalizing bs with
  | nil => simp [lexLE]
  | cons a as ih =>
    cases bs with
    | nil => simp [lexLE]
    | cons b bs => simp [lexLE, ih, List.cons_le_cons_iff]

/-- Identities are in the order of their octets. -/
theorem le_iff {a b : Identity} : le a b = true ↔ a.bytes ≤ b.bytes := lexLE_iff

/-- **Texts are in the order of the identities.** -/
theorem text_lt_iff {a b : Identity} : a.text < b.text ↔ a.bytes < b.bytes := Hex.encode_lt

theorem textLE_text (a b : Identity) : textLE a.text b.text = le a b := by
  rw [Bool.eq_iff_iff, le_iff, textLE, decide_eq_true_eq, ← not_lt, text_lt_iff, List.not_lt]

/-- Two identities have one text only if they are equal. -/
theorem text_inj {a b : Identity} : a.text = b.text ↔ a = b := by
  constructor
  · intro h
    cases a
    cases b
    cases Hex.encode_inj.mp h
    rfl
  · intro h
    rw [h]

/-! ## §3. Texts as a whole. -/

theorem readKey_eq_ok_iff : LinkConfig.readKey s = .ok k ↔ parse s = .ok k := by
  unfold LinkConfig.readKey
  cases parse s <;> simp [Except.mapError]

/-- A text that is refused is quoted as it was written. -/
theorem readKey_cases (s : String) : (∃ k, LinkConfig.readKey s = .ok k) ∨
    ∃ cause, LinkConfig.readKey s = .error (.invalidPublicKey s cause) := by
  unfold LinkConfig.readKey
  cases parse s with
  | ok k => exact .inl ⟨k, rfl⟩
  | error cause => exact .inr ⟨cause, rfl⟩

/-- **The text of an identity is faithful, and keeps the order.**  With the
white space at the ends of a text trimmed off:

* a text is read exactly if it is sixty-four digits, of either case, and then
  as the identity that is written as this text in small letters,
* any other text is refused, and quoted as it was written,
* every identity is read back from its text,
* identities are in the order of their octets, and their texts in the same
  order.  So distinct identities have distinct texts, and sorting the one is
  sorting the other. -/
theorem text_faithful :
    (∀ s t, trim s = t ↔ IsTrimmed isBlank s.toList t.toList) ∧
    (∀ s, (∃ k, LinkConfig.readKey s = .ok k) ↔
      (trim s).length = 64 ∧ ∀ c ∈ (trim s).toList, isHexDigit c = true) ∧
    (∀ s k, LinkConfig.readKey s = .ok k ↔ k.text = (trim s).toLower) ∧
    (∀ s, (∃ k, LinkConfig.readKey s = .ok k) ∨
      ∃ cause, LinkConfig.readKey s = .error (.invalidPublicKey s cause)) ∧
    (∀ k : Identity, LinkConfig.readKey k.text = .ok k) ∧
    (∀ a b, le a b = true ↔ a.bytes ≤ b.bytes) ∧
    (∀ a b : Identity, a.bytes < b.bytes ↔ a.text < b.text) ∧
    (∀ a b : Identity, a.text = b.text ↔ a = b) ∧
    ∀ ks : List Identity, (ks.mergeSort le).map text = sortTexts (ks.map text) := by
  refine ⟨fun s t => trim_eq_iff, ?_, ?_, readKey_cases, ?_, fun a b => le_iff,
    fun a b => text_lt_iff.symm, fun a b => text_inj, ?_⟩
  · intro s
    simp only [readKey_eq_ok_iff]
    exact parse_isOk_iff
  · intro s k
    rw [readKey_eq_ok_iff, parse_eq_ok_iff, eq_comm]
  · intro k
    rw [readKey_eq_ok_iff]
    exact parse_text k
  · intro ks
    exact List.map_mergeSort fun a _ b _ => (textLE_text a b).symm

example : LinkConfig.readKey "\u2003ab\n" =
    .error (.invalidPublicKey "\u2003ab\n" (.wrongLength 1)) := by decide +kernel

end Identity

end LinkLayer

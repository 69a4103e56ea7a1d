/-
  LinkLayer.Proofs.Text.Order
  ───────────────────────────
  **THE ORDER OF TEXTS IS THE ORDER OF THEIR OCTETS.**

  Texts are compared character by character.  UTF-8 is made so that comparing
  octet by octet gives the same: the octets of a lower character differ from
  those of a higher one at some place, and are lower there.

    • `utf8EncodeChar_lt` — one character against another,
    • `utf8Chars_lt` — a list of characters against another,
    • `textLE_iff` — **two texts are in order if and only if their octets
      are**,
    • `pairLE_iff` — pairs of texts are in lexicographic order, which is
      linear.
-/
import LinkLayer.Proofs.Text.Bytes
import LinkLayer.Text.Basic
import Mathlib.Data.List.Lex
import Mathlib.Data.Prod.Lex
import Mathlib.Data.String.Basic

namespace LinkLayer

/-! ## §1. One character. -/

/-- Octets are compared as the numbers that they hold. -/
theorem octet_lt {x y : Nat} (hx : x < 256) (hy : y < 256) :
    UInt8.ofNat x < UInt8.ofNat y ↔ x < y := by
  rw [UInt8.lt_iff_toNat_lt, UInt8.toNat_ofNat', UInt8.toNat_ofNat',
    Nat.mod_eq_of_lt hx, Nat.mod_eq_of_lt hy]

theorem octet_inj {x y : Nat} (hx : x < 256) (hy : y < 256) :
    UInt8.ofNat x = UInt8.ofNat y ↔ x = y := by
  rw [← UInt8.toNat_inj, UInt8.toNat_ofNat', UInt8.toNat_ofNat',
    Nat.mod_eq_of_lt hx, Nat.mod_eq_of_lt hy]

/-- Every character fits into the payload of four octets. -/
theorem charVal_lt (c : Char) : c.val.toNat < 2 ^ 21 := by
  have h := c.valid
  simp only [UInt32.isValidChar, Nat.isValidChar] at h
  omega

/-- **The octets of a lower character are lower**, whatever follows them. -/
theorem utf8EncodeChar_lt {c d : Char} (h : c < d) (s t : Bytes) :
    String.utf8EncodeChar c ++ s < String.utf8EncodeChar d ++ t := by
  have hlt : c.val.toNat < d.val.toNat := h
  have hd := charVal_lt d
  unfold String.utf8EncodeChar
  generalize c.val.toNat = v at hlt
  generalize d.val.toNat = w at hlt hd
  dsimp only
  -- The digits to the base 64 are digits of each other.
  have hv₁ : v / 64 / 64 = v / 4096 := Nat.div_div_eq_div_mul v 64 64
  have hv₂ : v / 4096 / 64 = v / 262144 := Nat.div_div_eq_div_mul v 4096 64
  have hw₁ : w / 64 / 64 = w / 4096 := Nat.div_div_eq_div_mul w 64 64
  have hw₂ : w / 4096 / 64 = w / 262144 := Nat.div_div_eq_div_mul w 4096 64
  have hv₃ : v / 262144 % 8 = v / 262144 := Nat.mod_eq_of_lt (by omega)
  have hw₃ : w / 262144 % 8 = w / 262144 := Nat.mod_eq_of_lt (by omega)
  -- One case for each two lengths.  Of two lengths the first octets decide;
  -- of one length the first digit that differs.
  split <;> split <;> (try split) <;> (try split) <;> (try split) <;> (try split) <;>
    simp (disch := omega) only [List.cons_append, List.nil_append, List.cons_lt_cons_iff,
      octet_lt, octet_inj] <;>
    omega

/-! ## §2. Texts. -/

/-- Every character has a first octet. -/
theorem exists_utf8EncodeChar (c : Char) : ∃ b bs, String.utf8EncodeChar c = b :: bs := by
  unfold String.utf8EncodeChar
  dsimp only
  repeat' split
  all_goals exact ⟨_, _, rfl⟩

/-- **The octets of a lower list of characters are lower.** -/
theorem utf8Chars_lt {cs ds : List Char} (h : cs < ds) : utf8Chars cs < utf8Chars ds := by
  induction cs generalizing ds with
  | nil =>
      cases ds with
      | nil => exact absurd h (List.not_lt_nil _)
      | cons d ds =>
          obtain ⟨b, bs, hb⟩ := exists_utf8EncodeChar d
          rw [utf8Chars_cons, hb]
          exact List.nil_lt_cons b _
  | cons c cs ih =>
      cases ds with
      | nil => exact absurd h (List.not_lt_nil _)
      | cons d ds =>
          rw [utf8Chars_cons, utf8Chars_cons]
          rcases List.cons_lt_cons_iff.mp h with hcd | ⟨rfl, hrest⟩
          · exact utf8EncodeChar_lt hcd _ _
          · exact List.append_left_lt (ih hrest)

/-- **Two texts are in order if and only if their octets are.** -/
theorem Text.textLE_iff (a b : String) : Text.textLE a b = true ↔ utf8 a ≤ utf8 b := by
  rw [Text.textLE, decide_eq_true_eq, String.le_iff_toList_le, utf8, utf8]
  constructor
  · intro h
    rcases h.lt_or_eq with hlt | heq
    · exact List.le_of_lt (utf8Chars_lt hlt)
    · rw [heq]
      exact List.le_refl _
  · intro h
    -- Texts in the wrong order would have octets in the wrong order.
    rw [← not_lt]
    intro hlt
    exact List.not_lt.mpr h (utf8Chars_lt hlt)

/-! ## §3. Pairs of texts. -/

/-- The order of pairs is the lexicographic one. -/
theorem Text.pairLE_iff (a b : String × String) :
    Text.pairLE a b = true ↔ toLex a ≤ toLex b := by
  rw [Prod.Lex.toLex_le_toLex, Text.pairLE]
  by_cases heq : a.1 = b.1
  · simp [heq, Text.textLE]
  · simp [heq, Text.textLE, le_iff_lt_or_eq]

end LinkLayer

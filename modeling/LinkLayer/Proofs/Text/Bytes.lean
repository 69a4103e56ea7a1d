/-
  LinkLayer.Proofs.Text.Bytes
  ───────────────────────────
  **CHARACTERS AND THEIR OCTETS.**

  A text in ASCII is one octet a character (`utf8EncodeChar_ascii`), and no
  octet of any other character is mistaken for one of these
  (`utf8EncodeChar_high`).  So what reads octets of ASCII only can be taken to
  read characters.
-/
import LinkLayer.Text.Bytes
import Mathlib.Data.List.Basic

namespace LinkLayer

/-! ## §1. The halves of an octet. -/

theorem octet_high_lt (b : UInt8) : b.toNat / 16 < 16 := by
  have := b.toNat_lt
  omega

theorem octet_low_lt (b : UInt8) : b.toNat % 16 < 16 := Nat.mod_lt _ (by decide)

/-- An octet is known by its halves. -/
theorem octet_eq_iff {hi lo : Nat} (hhi : hi < 16) (hlo : lo < 16) {b : UInt8} :
    UInt8.ofNat (hi * 16 + lo) = b ↔ hi = b.toNat / 16 ∧ lo = b.toNat % 16 := by
  rw [← UInt8.toNat_inj, UInt8.toNat_ofNat', Nat.mod_eq_of_lt (by omega)]
  omega

theorem octet_ext_iff {a b : UInt8} :
    a = b ↔ a.toNat / 16 = b.toNat / 16 ∧ a.toNat % 16 = b.toNat % 16 := by
  rw [← UInt8.toNat_inj]
  omega

/-- Of two octets the first half that differs decides. -/
theorem octet_lt_iff {a b : UInt8} : a < b ↔ a.toNat / 16 < b.toNat / 16 ∨
    a.toNat / 16 = b.toNat / 16 ∧ a.toNat % 16 < b.toNat % 16 := by
  rw [UInt8.lt_iff_toNat_lt]
  omega

/-! ## §2. Texts as octets. -/

theorem utf8Chars_cons (c : Char) (cs : List Char) :
    utf8Chars (c :: cs) = String.utf8EncodeChar c ++ utf8Chars cs := by
  simp [utf8Chars]

theorem utf8Chars_append (cs ds : List Char) :
    utf8Chars (cs ++ ds) = utf8Chars cs ++ utf8Chars ds :=
  List.flatMap_append

/-- What holds of the 128 characters of ASCII. -/
@[elab_as_elim]
theorem of_ascii {P : Char → Prop} (c : Char) (hc : c.toNat < 128)
    (h : ∀ k < 128, P (Char.ofNat k)) : P c :=
  c.ofNat_toNat ▸ h c.toNat hc

/-- An ASCII character is one octet. -/
theorem utf8EncodeChar_ascii {c : Char} (h : c.toNat < 128) :
    String.utf8EncodeChar c = [UInt8.ofNat c.toNat] := by
  have hval : c.val.toNat ≤ 0x7f := Nat.le_of_lt_succ h
  simp only [String.utf8EncodeChar, if_pos hval]
  rfl

/-- Any other character begins with an octet outside ASCII. -/
theorem utf8EncodeChar_high {c : Char} (h : 128 ≤ c.toNat) :
    ∃ b bs, String.utf8EncodeChar c = b :: bs ∧ 128 ≤ b.toNat := by
  have hval : ¬ c.val.toNat ≤ 0x7f := Nat.not_le_of_lt h
  unfold String.utf8EncodeChar
  dsimp only
  rw [if_neg hval]
  repeat' split
  all_goals
    refine ⟨_, _, rfl, ?_⟩
    rw [UInt8.toNat_ofNat', Nat.mod_eq_of_lt (by omega)]
    omega

end LinkLayer

/-
  LinkLayer.Proofs.Text.Blank
  ───────────────────────────
  **TEXTS WITHOUT THE WHITE SPACE AT THEIR ENDS.**

  `trimWhile` drops from the front and, reversed, from the back.  What it
  leaves is known without the order of the two (`IsTrimmed`): whatever was
  around it is to be dropped, and its own ends are not.

    • `trimWhile_eq_iff`, `trim_eq_iff` — **trimming gives the list that is
      trimmed, and there is only one**,
    • `trim_eq_self` — a text without white space stays as it is.
-/
import LinkLayer.Text.Basic
import Mathlib.Data.List.TakeWhile

namespace LinkLayer.Text

variable {α : Type} {p : α → Bool} {l core before after : List α}

/-- `core` is `l` without the elements satisfying `p` at either end. -/
structure IsTrimmed (p : α → Bool) (l core : List α) : Prop where
  around : ∃ before after, l = before ++ core ++ after ∧
    (∀ x ∈ before, p x = true) ∧ ∀ x ∈ after, p x = true
  first : ∀ x ∈ core.head?, p x = false
  last : ∀ x ∈ core.getLast?, p x = false

/-- Dropping stops at an element that is not to be dropped. -/
theorem dropWhile_eq_self (h : ∀ x ∈ core.head?, p x = false) : core.dropWhile p = core := by
  cases core with
  | nil => rfl
  | cons x core => exact List.dropWhile_cons_of_neg (by simp [h x rfl])

/-- Dropping takes off all of what is to be dropped, and no more. -/
theorem dropWhile_append_eq (hbefore : ∀ x ∈ before, p x = true)
    (h : ∀ x ∈ core.head?, p x = false) : (before ++ core).dropWhile p = core := by
  rw [List.dropWhile_append_of_pos hbefore, dropWhile_eq_self h]

theorem dropEndWhile_append_eq (hafter : ∀ x ∈ after, p x = true)
    (h : ∀ x ∈ core.getLast?, p x = false) : dropEndWhile p (core ++ after) = core := by
  rw [dropEndWhile, List.reverse_append, dropWhile_append_eq, List.reverse_reverse]
  · intro x hx
    exact hafter x (List.mem_reverse.mp hx)
  · rw [List.head?_reverse]
    exact h

/-- What is left of a list stands in it behind what was dropped, and does not
begin with something to drop. -/
theorem dropWhile_spec (p : α → Bool) (l : List α) :
    (∃ before, l = before ++ l.dropWhile p ∧ ∀ x ∈ before, p x = true) ∧
    ∀ x ∈ (l.dropWhile p).head?, p x = false := by
  constructor
  · exact ⟨l.takeWhile p, List.takeWhile_append_dropWhile.symm, fun x => List.mem_takeWhile_imp⟩
  · intro x hx
    have hnot := List.head?_dropWhile_not p l
    rw [Option.mem_def.mp hx] at hnot
    simpa using hnot

/-- **Trimming gives the list that is trimmed.** -/
theorem isTrimmed_trimWhile (p : α → Bool) (l : List α) : IsTrimmed p l (trimWhile p l) := by
  obtain ⟨⟨before, hl, hbefore⟩, hfirst⟩ := dropWhile_spec p l
  obtain ⟨⟨after, hrest, hafter⟩, hlast⟩ := dropWhile_spec p (l.dropWhile p).reverse
  have hcore : l.dropWhile p = trimWhile p l ++ after.reverse := by
    rw [trimWhile, dropEndWhile, ← List.reverse_append, ← hrest, List.reverse_reverse]
  refine ⟨⟨before, after.reverse, ?_, hbefore, ?_⟩, ?_, ?_⟩
  · rw [List.append_assoc, ← hcore, ← hl]
  · intro x hx
    exact hafter x (List.mem_reverse.mp hx)
  · -- What is left begins as it did before its end was taken off.
    intro x hx
    refine hfirst x ?_
    rw [hcore, List.head?_append, Option.mem_def.mp hx]
    rfl
  · intro x hx
    refine hlast x ?_
    rw [trimWhile, dropEndWhile, List.getLast?_reverse] at hx
    exact hx

/-- **There is one way to trim a list.** -/
theorem trimWhile_eq_iff : trimWhile p l = core ↔ IsTrimmed p l core := by
  constructor
  · rintro rfl
    exact isTrimmed_trimWhile p l
  · intro h
    obtain ⟨before, after, hl, hbefore, hafter⟩ := h.around
    cases core with
    | nil =>
      -- Nothing stays, so that dropping from the front takes everything.
      have hall : ∀ x ∈ l, p x = true := by
        intro x hx
        rw [hl, List.append_nil] at hx
        exact (List.mem_append.mp hx).elim (hbefore x) (hafter x)
      rw [trimWhile, List.dropWhile_eq_nil_iff.mpr hall]
      rfl
    | cons c core =>
      have hfirst : ∀ x ∈ (c :: core ++ after).head?, p x = false := h.first
      rw [trimWhile, hl, List.append_assoc, dropWhile_append_eq hbefore hfirst,
        dropEndWhile_append_eq hafter h.last]

/-! ## Texts. -/

/-- **A trimmed text is the text without the white space at its ends.** -/
theorem trim_eq_iff {s t : String} : trim s = t ↔ IsTrimmed isBlank s.toList t.toList := by
  rw [← trimWhile_eq_iff, trim, ← String.toList_inj, String.toList_ofList]

/-- A text without white space stays as it is. -/
theorem trim_eq_self {s : String} (h : ∀ c ∈ s.toList, isBlank c = false) : trim s = s := by
  refine trim_eq_iff.mpr ⟨⟨[], [], by simp, by simp, by simp⟩, ?_, ?_⟩
  · intro c hc
    exact h c (List.mem_of_mem_head? hc)
  · intro c hc
    exact h c (List.mem_of_mem_getLast? hc)

end LinkLayer.Text

/-
  LinkLayer.Proofs.Text.Firsts
  ────────────────────────────
  **FIRST OCCURRENCES.**

  The first occurrences in a list are a set in the order of the list: they are
  its elements (`mem_firsts`), each of them once (`nodup_firsts`), and they
  come as they did there (`firsts_sublist`).  They are what is left when every
  repeat is erased (`firsts_eq_eraseDups`), and a list that grows at its end
  keeps those that it has (`firsts_append`).
-/
import LinkLayer.Text.Basic
import Mathlib.Data.List.Nodup

namespace LinkLayer.Text

theorem nodup_insertNew {α : Type} [DecidableEq α] {xs : List α} (h : xs.Nodup) (x : α) :
    (insertNew xs x).Nodup := by
  unfold insertNew
  split
  · exact h
  · next hx => exact List.nodup_append.mpr ⟨h, by simp, fun a ha b hb hab => by simp_all⟩

/-- A list of first occurrences has no repeats. -/
theorem nodup_firsts {α : Type} [DecidableEq α] (xs : List α) : (firsts xs).Nodup := by
  suffices ∀ seen : List α, seen.Nodup → (xs.foldl insertNew seen).Nodup from this [] .nil
  induction xs with
  | nil => exact fun _ h => h
  | cons x xs ih => exact fun seen h => ih _ (nodup_insertNew h x)

/-- What is a first occurrence is an element, and each element has one. -/
theorem mem_firsts {α : Type} [DecidableEq α] (xs : List α) (x : α) :
    x ∈ firsts xs ↔ x ∈ xs := by
  have hfold : ∀ seen : List α, x ∈ xs.foldl insertNew seen ↔ x ∈ seen ∨ x ∈ xs := by
    induction xs with
    | nil => simp
    | cons y ys ih =>
        intro seen
        rw [List.foldl_cons, ih, insertNew, List.mem_cons]
        split
        · next hy =>
            -- An element that was there already is no news.
            constructor
            · exact Or.imp_right .inr
            · rintro (hx | rfl | hx)
              · exact .inl hx
              · exact .inl hy
              · exact .inr hx
        · rw [List.mem_append, List.mem_singleton, or_assoc]
  exact (hfold []).trans (by simp)

/-- First occurrences come in the order of the list. -/
theorem firsts_sublist {α : Type} [DecidableEq α] (xs : List α) :
    (firsts xs).Sublist xs := by
  have hfold : ∀ (ys : List α) (seen done : List α), seen.Sublist done →
      (ys.foldl insertNew seen).Sublist (done ++ ys) := by
    intro ys
    induction ys with
    | nil =>
        intro seen done hs
        rw [List.append_nil]
        exact hs
    | cons y ys ih =>
        intro seen done hs
        rw [List.foldl_cons, List.append_cons]
        refine ih _ _ ?_
        unfold insertNew
        split
        · exact hs.trans (List.sublist_append_left _ _)
        · exact hs.append (.refl _)
  exact hfold xs [] [] (.refl _)

/-- Elements are put behind those that were seen: each that is new, once. -/
theorem foldl_insertNew {α : Type} [DecidableEq α] (xs seen : List α) :
    xs.foldl insertNew seen = seen ++ (xs.filter (· ∉ seen)).eraseDups := by
  induction xs generalizing seen with
  | nil => simp
  | cons x xs ih =>
    rw [List.foldl_cons, ih, insertNew]
    split
    · next hx => rw [List.filter_cons_of_neg (by simpa using hx)]
    · next hx =>
      -- What repeats `x` is not new once `x` was seen.
      have hnew : (xs.filter (· ∉ seen)).filter (fun y => !y == x) =
          xs.filter (· ∉ seen ++ [x]) := by
        rw [List.filter_filter]
        refine List.filter_congr fun y _ => ?_
        simp [and_comm, beq_eq_decide]
      rw [List.filter_cons_of_pos (by simpa using hx), List.eraseDups_cons, hnew,
        List.append_assoc, List.singleton_append]

/-- **First occurrences are what is left when every repeat is erased.** -/
theorem firsts_eq_eraseDups {α : Type} [DecidableEq α] (xs : List α) :
    firsts xs = xs.eraseDups := by
  rw [firsts, foldl_insertNew]
  simp

/-- **A list that grows at its end keeps its first occurrences**, and gets those
of what it did not have. -/
theorem firsts_append {α : Type} [DecidableEq α] (xs ys : List α) :
    firsts (xs ++ ys) = firsts xs ++ (ys.filter (· ∉ firsts xs)).eraseDups := by
  rw [firsts, List.foldl_append, foldl_insertNew]
  rfl

end LinkLayer.Text

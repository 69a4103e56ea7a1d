/-
  LinkLayer.Table
  ───────────────
  **NUMBERED THINGS.**

  A table holds at most one thing for a number and keeps the order in which
  the numbers came.
-/

namespace LinkLayer

/-- Things with numbers. -/
structure Table (α : Type) where
  rows : List (Nat × α) := []
  deriving Repr

namespace Table

variable {α : Type}

/-- The thing with a number. -/
def find? (t : Table α) (n : Nat) : Option α := (t.rows.find? (·.1 = n)).map (·.2)

/-- Rows in which a number stands for a thing: at the place that the number
has, or behind all others. -/
def putRows (n : Nat) (a : α) : List (Nat × α) → List (Nat × α)
  | [] => [(n, a)]
  | row :: rest => if row.1 = n then (n, a) :: rest else row :: putRows n a rest

/-- Let a number stand for a thing. -/
def put (t : Table α) (n : Nat) (a : α) : Table α := ⟨putRows n a t.rows⟩

/-- Change the thing with a number, if there is one. -/
def modify (t : Table α) (n : Nat) (f : α → α) : Table α :=
  ⟨t.rows.map fun row => if row.1 = n then (n, f row.2) else row⟩

/-- The numbers, in the order in which they came. -/
def numbers (t : Table α) : List Nat := t.rows.map (·.1)

/-- The things, in the order of their numbers' coming. -/
def values (t : Table α) : List α := t.rows.map (·.2)

theorem find?_putRows_self (n : Nat) (a : α) (rows : List (Nat × α)) :
    (putRows n a rows).find? (·.1 = n) = some (n, a) := by
  induction rows with
  | nil => simp [putRows]
  | cons row rest ih =>
    by_cases h : row.1 = n
    · simp [putRows, h]
    · simp [putRows, h, ih]

theorem find?_putRows_ne {n m : Nat} (a : α) (rows : List (Nat × α)) (h : m ≠ n) :
    (putRows n a rows).find? (·.1 = m) = rows.find? (·.1 = m) := by
  induction rows with
  | nil => simp [putRows, Ne.symm h]
  | cons row rest ih =>
    by_cases hr : row.1 = n
    · simp [putRows, hr, Ne.symm h]
    · by_cases hm : row.1 = m
      · simp [putRows, hm, h]
      · simp [putRows, hr, hm, ih]

/-- A number stands for the thing that was put there. -/
@[simp] theorem find?_put_self (t : Table α) (n : Nat) (a : α) :
    (t.put n a).find? n = some a := by
  simp [find?, put, find?_putRows_self]

/-- Other numbers are left alone. -/
theorem find?_put_ne (t : Table α) {n m : Nat} (a : α) (h : m ≠ n) :
    (t.put n a).find? m = t.find? m := by
  simp [find?, put, find?_putRows_ne a t.rows h]

/-- What was put last counts. -/
theorem put_put (t : Table α) (n : Nat) (a b : α) : (t.put n a).put n b = t.put n b := by
  obtain ⟨rows⟩ := t
  simp only [put]
  congr 1
  induction rows with
  | nil => simp [putRows]
  | cons row rest ih =>
    by_cases h : row.1 = n
    · simp [putRows, h]
    · simp [putRows, h, ih]

/-- What a number stands for after something was put. -/
theorem find?_put (t : Table α) (n m : Nat) (a : α) :
    (t.put n a).find? m = if m = n then some a else t.find? m := by
  by_cases h : m = n
  · rw [if_pos h, h, find?_put_self]
  · rw [if_neg h, find?_put_ne t a h]

/-- What a number stands for after a change. -/
theorem find?_modify (t : Table α) (n m : Nat) (f : α → α) :
    (t.modify n f).find? m = if m = n then (t.find? m).map f else t.find? m := by
  obtain ⟨rows⟩ := t
  simp only [find?, modify]
  induction rows with
  | nil => simp
  | cons row rest ih =>
      by_cases hr : row.1 = m
      · by_cases hm : m = n
        · simp [hr, hm]
        · simp [hr, hm]
      · by_cases hn : row.1 = n
        · have hnm : ¬ n = m := fun h => hr (hn.trans h)
          simpa [hr, hn, hnm] using ih
        · simpa [hr, hn] using ih

/-- Things under different numbers are changed in any order. -/
theorem modify_put_ne {n k : Nat} (t : Table α) (f : α → α) (x : α) (h : k ≠ n) :
    (t.put k x).modify n f = (t.modify n f).put k x := by
  obtain ⟨rows⟩ := t
  simp only [put, modify]
  congr 1
  induction rows with
  | nil => simp [putRows, h]
  | cons row rest ih =>
      obtain ⟨i, y⟩ := row
      by_cases hk : i = k
      · subst hk
        simp [putRows, h]
      · by_cases hn : i = n
        · subst hn
          simp [putRows, hk, ih]
        · simp [putRows, hk, hn, ih]

/-- So is one thing, with changes that commute. -/
theorem modify_comm {n k : Nat} (t : Table α) {f g : α → α}
    (h : k = n → ∀ x, f (g x) = g (f x)) :
    (t.modify k g).modify n f = (t.modify n f).modify k g := by
  obtain ⟨rows⟩ := t
  simp only [modify, List.map_map]
  congr 1
  refine List.map_congr_left fun row _ => ?_
  simp only [Function.comp_apply]
  by_cases hk : row.1 = k <;> by_cases hn : row.1 = n <;> simp_all

/-- A change of what is not there is none. -/
theorem modify_of_none {n : Nat} {t : Table α} (h : t.find? n = none) (f : α → α) :
    t.modify n f = t := by
  obtain ⟨rows⟩ := t
  simp only [find?, Option.map_eq_none_iff, List.find?_eq_none, decide_eq_true_eq] at h
  simp only [modify]
  congr 1
  exact (List.map_congr_left fun row hrow => if_neg (h row hrow)).trans (List.map_id _)

/-- A change that keeps what was put changes nothing. -/
theorem modify_put_self {n : Nat} {t : Table α} (h : t.find? n = none) {f : α → α} {x : α}
    (hf : f x = x) : (t.put n x).modify n f = t.put n x := by
  obtain ⟨rows⟩ := t
  simp only [find?, Option.map_eq_none_iff, List.find?_eq_none, decide_eq_true_eq] at h
  simp only [put, modify]
  congr 1
  induction rows with
  | nil => simp [putRows, hf]
  | cons row rest ih =>
      have hr : row.1 ≠ n := h row List.mem_cons_self
      have hrest := ih fun row' hrow => h row' (List.mem_cons_of_mem _ hrow)
      simp only [putRows, hr, if_false, List.map_cons, hrest]

theorem numbers_putRows (n : Nat) (a : α) (rows : List (Nat × α)) :
    (putRows n a rows).map (·.1) =
      if n ∈ rows.map (·.1) then rows.map (·.1) else rows.map (·.1) ++ [n] := by
  induction rows with
  | nil => rfl
  | cons row rest ih =>
      by_cases h : row.1 = n
      · simp [putRows, h]
      · have hn : ¬ n = row.1 := fun h' => h h'.symm
        simp only [putRows, if_neg h, List.map_cons, ih, List.mem_cons, hn, false_or]
        split <;> rfl

/-- Numbers that are all different stay so. -/
theorem nodup_numbers_put {t : Table α} (h : t.numbers.Nodup) (n : Nat) (a : α) :
    (t.put n a).numbers.Nodup := by
  show ((putRows n a t.rows).map (·.1)).Nodup
  rw [numbers_putRows]
  split
  · exact h
  · next hn =>
      refine List.nodup_append.mpr ⟨h, by simp, ?_⟩
      intro x hx y hy hxy
      rw [List.mem_singleton.mp hy] at hxy
      exact hn (hxy ▸ hx)

/-- With different numbers, a row is what its number stands for. -/
theorem find?_of_mem {t : Table α} (h : t.numbers.Nodup) {n : Nat} {a : α}
    (hm : (n, a) ∈ t.rows) : t.find? n = some a := by
  obtain ⟨rows⟩ := t
  simp only [find?, numbers] at *
  induction rows with
  | nil => cases hm
  | cons row rest ih =>
      simp only [List.map_cons, List.nodup_cons] at h
      rcases List.mem_cons.mp hm with rfl | hm
      · simp
      · have hr : ¬ row.1 = n := by
          rintro rfl
          exact h.1 (List.mem_map.mpr ⟨_, hm, rfl⟩)
        simpa [hr] using ih h.2 hm

/-- What is found has its number in the table. -/
theorem mem_numbers_of_find? {t : Table α} {n : Nat} {a : α} (h : t.find? n = some a) :
    n ∈ t.numbers := by
  obtain ⟨row, hrow, -⟩ := Option.map_eq_some_iff.mp h
  have hfst : row.1 = n := by simpa using List.find?_some hrow
  exact List.mem_map.mpr ⟨row, List.mem_of_find?_eq_some hrow, hfst⟩

end Table

end LinkLayer

/-
  LinkLayer.Named
  ───────────────
  **THINGS WITH NAMES.**

  At most one thing has a name.  A thing that is given a name that was
  another one's takes that one's place.
-/

namespace LinkLayer

/-- Things with names. -/
structure Named (α : Type) where
  rows : List (String × α) := []
  deriving Repr, DecidableEq

namespace Named

variable {α : Type}

/-- The thing with a name. -/
def find? (t : Named α) (name : String) : Option α := (t.rows.find? (·.1 = name)).map (·.2)

/-- The things with other names. -/
def erase (t : Named α) (name : String) : Named α := ⟨t.rows.filter (·.1 ≠ name)⟩

/-- Let a name stand for a thing. -/
def put (t : Named α) (name : String) (a : α) : Named α := ⟨(name, a) :: (t.erase name).rows⟩

/-- The names. -/
def names (t : Named α) : List String := t.rows.map (·.1)

/-- The things. -/
def values (t : Named α) : List α := t.rows.map (·.2)

/-- The things of which something holds. -/
def keep (t : Named α) (p : α → Bool) : Named α := ⟨t.rows.filter fun row => p row.2⟩

/-- A name stands for the thing that was given it. -/
@[simp] theorem find?_put_self (t : Named α) (name : String) (a : α) :
    (t.put name a).find? name = some a := by
  simp [find?, put]

/-- A name that was taken away stands for nothing. -/
@[simp] theorem find?_erase_self (t : Named α) (name : String) :
    (t.erase name).find? name = none := by
  simp [find?, erase]

theorem find?_filter_ne {name other : String} (rows : List (String × α)) (h : other ≠ name) :
    (rows.filter (·.1 ≠ name)).find? (·.1 = other) = rows.find? (·.1 = other) := by
  rw [List.find?_filter]
  congr 1
  funext row
  by_cases ho : row.1 = other
  · simp [ho, h]
  · simp [ho]

/-- Other names stand for what they stood for. -/
theorem find?_erase_ne (t : Named α) {name other : String} (h : other ≠ name) :
    (t.erase name).find? other = t.find? other := by
  unfold find? erase
  rw [find?_filter_ne t.rows h]

/-- Other names are left alone. -/
theorem find?_put_ne (t : Named α) {name other : String} (a : α) (h : other ≠ name) :
    (t.put name a).find? other = t.find? other := by
  rw [← find?_erase_ne t h]
  simp [find?, put, Ne.symm h]

end Named

end LinkLayer

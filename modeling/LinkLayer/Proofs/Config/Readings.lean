/-
  LinkLayer.Proofs.Config.Readings
  ────────────────────────────────
  **LISTS THAT ARE READ ONE BY ONE.**

  The keys and the listeners of a configuration are texts, each of which is
  read on its own.  The first one that cannot be read is the error of its list
  (`FirstFault`), whatever stands behind it.

    • `mapM_eq_ok_iff`, `mapM_isOk_iff` — a list is read if each of it is,
    • `mapM_eq_error_iff` — **and otherwise the first fault is the error**,
    • `firstFault_append` — more texts at the end change no fault that there
      is,
    • `readKeys_eq_mapM`, `readListeners_eq_mapM` — keys and listeners are
      read in this way.
-/
import LinkLayer.Settings
import Mathlib.Data.List.Basic

namespace LinkLayer

variable {α β ε : Type} {read : α → Except ε β} {x : α} {xs ys : List α} {bs : List β} {e : ε}

/-- A list is read as another one: each of it, in its order. -/
def ReadAs (read : α → Except ε β) (xs : List α) (bs : List β) : Prop := xs.map read = bs.map .ok

/-- Every one of a list can be read. -/
def AllRead (read : α → Except ε β) (xs : List α) : Prop := ∀ x ∈ xs, ∃ b, read x = .ok b

/-- The first one of a list that cannot be read, and why. -/
def FirstFault (read : α → Except ε β) (xs : List α) (e : ε) : Prop :=
  ∃ before x after, xs = before ++ x :: after ∧ AllRead read before ∧ read x = .error e

/-! ## §1. Lists that are read. -/

theorem mapM_cons_of_error (h : read x = .error e) (xs : List α) :
    (x :: xs).mapM read = .error e := by
  rw [List.mapM_cons, h]
  rfl

theorem mapM_cons_of_ok {b : β} (h : read x = .ok b) (xs : List α) :
    (x :: xs).mapM read = (xs.mapM read).map (b :: ·) := by
  rw [List.mapM_cons, h]
  cases xs.mapM read <;> rfl

/-- **A list is read if each of it is**, and in its order. -/
theorem mapM_eq_ok_iff : xs.mapM read = .ok bs ↔ ReadAs read xs bs := by
  unfold ReadAs
  induction xs generalizing bs with
  | nil => cases bs <;> simp [pure, Except.pure]
  | cons x xs ih =>
    cases hx : read x with
    | error e =>
      rw [mapM_cons_of_error hx, List.map_cons, hx]
      cases bs <;> simp
    | ok b =>
      rw [mapM_cons_of_ok hx, List.map_cons, hx]
      cases bs with
      | nil => cases xs.mapM read <;> simp [Except.map]
      | cons b' bs =>
        rw [List.map_cons, List.cons.injEq, Except.ok.injEq, ← ih]
        cases xs.mapM read <;> simp [Except.map]

theorem mapM_isOk_iff : (∃ bs, xs.mapM read = .ok bs) ↔ AllRead read xs := by
  simp only [mapM_eq_ok_iff, ReadAs, AllRead]
  induction xs with
  | nil => exact ⟨fun _ _ h => (List.not_mem_nil h).elim, fun _ => ⟨[], rfl⟩⟩
  | cons x xs ih =>
    rw [List.forall_mem_cons, ← ih]
    constructor
    · rintro ⟨bs, hbs⟩
      cases bs with
      | nil => cases hbs
      | cons b bs => exact ⟨⟨b, (List.cons.inj hbs).1⟩, bs, (List.cons.inj hbs).2⟩
    · rintro ⟨⟨b, hb⟩, bs, hbs⟩
      exact ⟨b :: bs, by rw [List.map_cons, List.map_cons, hb, hbs]⟩

/-- What a list is read as are the readings of what is in it. -/
theorem ReadAs.mem_iff (h : ReadAs read xs bs) {b : β} : b ∈ bs ↔ ∃ x ∈ xs, read x = .ok b := by
  have hmem : b ∈ bs ↔ Except.ok b ∈ xs.map read := by
    rw [h, List.mem_map]
    simp
  rw [hmem, List.mem_map]

theorem ReadAs.length_eq (h : ReadAs read xs bs) : bs.length = xs.length := by
  have hlength := congrArg List.length h
  rw [List.length_map, List.length_map] at hlength
  exact hlength.symm

theorem ReadAs.append {cs : List β} (hxs : ReadAs read xs bs) (hys : ReadAs read ys cs) :
    ReadAs read (xs ++ ys) (bs ++ cs) := by
  rw [ReadAs, List.map_append, List.map_append, hxs, hys]

/-! ## §2. The first fault. -/

/-- A list begins with what cannot be read, or has its fault in the rest. -/
theorem firstFault_cons : FirstFault read (x :: xs) e ↔
    read x = .error e ∨ (∃ b, read x = .ok b) ∧ FirstFault read xs e := by
  constructor
  · rintro ⟨before, y, after, hsplit, hbefore, hy⟩
    cases before with
    | nil =>
      cases hsplit
      exact .inl hy
    | cons z before =>
      cases hsplit
      obtain ⟨hz, hrest⟩ := List.forall_mem_cons.mp hbefore
      exact .inr ⟨hz, before, y, after, rfl, hrest, hy⟩
  · rintro (hx | ⟨hx, before, y, after, rfl, hbefore, hy⟩)
    · exact ⟨[], x, xs, rfl, fun _ h => (List.not_mem_nil h).elim, hx⟩
    · exact ⟨x :: before, y, after, rfl, List.forall_mem_cons.mpr ⟨hx, hbefore⟩, hy⟩

/-- **The error of a list is that of its first fault.** -/
theorem mapM_eq_error_iff : xs.mapM read = .error e ↔ FirstFault read xs e := by
  induction xs with
  | nil =>
    constructor
    · intro h
      cases h
    · rintro ⟨before, x, after, hsplit, -⟩
      simp at hsplit
  | cons x xs ih =>
    rw [firstFault_cons, ← ih]
    cases hx : read x with
    | error e' => simp [mapM_cons_of_error hx]
    | ok b =>
      rw [mapM_cons_of_ok hx]
      cases xs.mapM read <;> simp [Except.map]

/-- A list is read, or it has a first fault. -/
theorem allRead_or_firstFault (read : α → Except ε β) (xs : List α) :
    AllRead read xs ∨ ∃ e, FirstFault read xs e := by
  cases h : xs.mapM read with
  | ok bs => exact .inl (mapM_isOk_iff.mp ⟨bs, h⟩)
  | error e => exact .inr ⟨e, mapM_eq_error_iff.mp h⟩

/-- **More at the end of a list changes no fault**, and has the fault where
there was none. -/
theorem firstFault_append : FirstFault read (xs ++ ys) e ↔
    FirstFault read xs e ∨ AllRead read xs ∧ FirstFault read ys e := by
  induction xs with
  | nil => simp [AllRead, FirstFault]
  | cons x xs ih =>
    have hall : AllRead read (x :: xs) ↔ (∃ b, read x = .ok b) ∧ AllRead read xs :=
      List.forall_mem_cons
    rw [List.cons_append, firstFault_cons, firstFault_cons, ih, hall]
    tauto

/-! ## §3. Keys and listeners. -/

namespace LinkConfig

theorem readKeys_eq_mapM (texts : List String) : readKeys texts = texts.mapM readKey := by
  induction texts with
  | nil => rfl
  | cons text texts ih =>
    rw [readKeys, ih]
    cases hkey : Identity.parse text with
    | error cause => rw [mapM_cons_of_error (by rw [readKey, hkey]; rfl)]
    | ok k =>
      rw [mapM_cons_of_ok (by rw [readKey, hkey]; rfl)]
      cases texts.mapM readKey <;> rfl

theorem readListeners_eq_mapM (texts : List String) :
    readListeners texts = texts.mapM ListenSpec.parse := by
  induction texts with
  | nil => rfl
  | cons text texts ih =>
    rw [readListeners, ih]
    cases hspec : ListenSpec.parse text with
    | error cause => rw [mapM_cons_of_error hspec]
    | ok spec =>
      rw [mapM_cons_of_ok hspec]
      cases texts.mapM ListenSpec.parse <;> rfl

end LinkConfig

end LinkLayer

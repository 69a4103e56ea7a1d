/-
  LinkLayer.Proofs.Registry.History
  ─────────────────────────────────
  **THE REGISTRY IS WHAT ITS HISTORY SAYS.**

  A history is the list of all operations on a registry, with their answers.
  From the history alone one can say which handles are live (`Live`): those
  whose last successful registration was not followed by a successful
  deregistration.

    • `Reflects` — what a registry has to do with its history: the entries are
      the live handles and no more, and their number is that of the insertions
      less that of the removals,
    • `Reflects.perform` — every operation keeps it,
    • `Registers`, `Deregisters`, `Fires`, `Lists` — what the single
      operations do, whatever has been done before,
    • `registry_history` — **all this for every history**.

  The handles are taken from a roster.  They may be alike in all but their
  number, be registered again after they were removed, be deregistered without
  ever having been registered, and have their signals fired from outside.
-/
import LinkLayer.Proofs.Registry.Basic
import LinkLayer.Proofs.Text.Order
import Mathlib.Data.List.Nodup

namespace LinkLayer.Registry

open LinkLayer.Text

/-! ## §1. Operations and histories. -/

/-- The handles that there are.  A handle is made once, with a number of its
own; all the rest two handles may have in common. -/
structure Roster where
  handle : Nat → Handle
  id_handle : ∀ n, (handle n).id = n

theorem Roster.handle_inj (R : Roster) {m n : Nat} (h : R.handle m = R.handle n) : m = n := by
  rw [← R.id_handle m, h, R.id_handle]

/-- An operation on a registry. -/
inductive Op where
  | register (n : Nat)
  | deregister (n : Nat)
  | lookup (key : LinkKey)
  | count
  | snapshot
  /-- Somebody who has the signal of a handle fires it. -/
  | fire (n : Nat)
  deriving DecidableEq

/-- What an operation answers. -/
inductive Answer where
  | registered (answer : Registration)
  | removed (answer : Bool)
  | found (answer : Option Handle)
  | counted (answer : Nat)
  | listed (answer : List Handle)
  | fired (answer : Bool)
  deriving DecidableEq

/-- The operations so far, the first one first, with their answers. -/
abbrev History := List (Op × Answer)

/-- The next operation. -/
def perform (R : Roster) (r : Registry) : Op → Answer × Registry
  | .register n => (.registered (r.register (R.handle n)).1, (r.register (R.handle n)).2)
  | .deregister n => (.removed (r.deregister (R.handle n)).1, (r.deregister (R.handle n)).2)
  | .lookup key => (.found (r.lookup key), r)
  | .count => (.counted r.count, r)
  | .snapshot => (.listed r.snapshot, r)
  | .fire n => (.fired (r.fire n).1, (r.fire n).2)

/-- An operation goes on record with its answer. -/
def record (R : Roster) (s : History × Registry) (op : Op) : History × Registry :=
  (s.1 ++ [(op, (s.2.perform R op).1)], (s.2.perform R op).2)

/-- The history of an empty registry under operations, and what has become of
the registry. -/
def historyOf (R : Roster) (ops : List Op) : History × Registry :=
  ops.foldl (record R) ([], empty)

/-- The handle was inserted. -/
def insertion (n : Nat) : Op × Answer := (.register n, .registered .inserted)

/-- The handle was removed. -/
def removal (n : Nat) : Op × Answer := (.deregister n, .removed true)

/-- Whether a handle was inserted. -/
def isInsertion : Op × Answer → Bool
  | (.register _, .registered .inserted) => true
  | _ => false

/-- Whether a handle was removed. -/
def isRemoval : Op × Answer → Bool
  | (.deregister _, .removed true) => true
  | _ => false

/-- The last insertion of the handle was not followed by its removal. -/
def Live (log : History) (n : Nat) : Prop :=
  ∃ before after, log = before ++ insertion n :: after ∧
    insertion n ∉ after ∧ removal n ∉ after

/-- Somebody has deregistered the handle or fired its signal. -/
def Signalled (log : History) (n : Nat) : Prop :=
  ∃ x ∈ log, x.1 = .deregister n ∨ x.1 = .fire n

theorem not_live_nil (n : Nat) : ¬ Live [] n := by
  rintro ⟨before, after, h, -⟩
  simp at h

/-- **Whether a handle is live, by the operation that came last.** -/
theorem live_concat {log : History} {x : Op × Answer} {n : Nat} :
    Live (log ++ [x]) n ↔ x = insertion n ∨ x ≠ removal n ∧ Live log n := by
  constructor
  · rintro ⟨before, after, h, hins, hrem⟩
    rcases List.eq_nil_or_concat after with rfl | ⟨rest, y, rfl⟩
    · exact .inl (List.append_inj_right' h rfl |> List.singleton_inj.mp)
    · rw [List.concat_eq_append] at h hins hrem
      rw [← List.cons_append, ← List.append_assoc] at h
      obtain ⟨hlog, hx⟩ := List.append_inj' h rfl
      obtain rfl : x = y := List.singleton_inj.mp hx
      simp only [List.mem_append, List.mem_singleton, not_or] at hins hrem
      exact .inr ⟨fun heq => hrem.2 heq.symm, before, rest, hlog, hins.1, hrem.1⟩
  · intro h
    by_cases hx : x = insertion n
    · exact ⟨log, [], by rw [hx], List.not_mem_nil, List.not_mem_nil⟩
    · obtain ⟨hne, before, after, hlog, hins, hrem⟩ := h.resolve_left hx
      refine ⟨before, after ++ [x], by rw [hlog]; simp, ?_, ?_⟩
      · simpa [hins] using Ne.symm hx
      · simpa [hrem] using Ne.symm hne

theorem signalled_concat {log : History} {x : Op × Answer} {n : Nat} :
    Signalled (log ++ [x]) n ↔ Signalled log n ∨ x.1 = .deregister n ∨ x.1 = .fire n := by
  simp only [Signalled, List.mem_append, List.mem_singleton]
  constructor
  · rintro ⟨y, hy | rfl, h⟩
    · exact .inl ⟨y, hy, h⟩
    · exact .inr h
  · rintro (⟨y, hy, h⟩ | h)
    · exact ⟨y, .inl hy, h⟩
    · exact ⟨x, .inr rfl, h⟩

/-! ## §2. Removing from a proper registry. -/

variable {R : Roster} {r : Registry}

/-- Entries are handles of the roster, so their numbers tell them apart. -/
def Enrolled (R : Roster) (r : Registry) : Prop := ∀ e ∈ r.entries, R.handle e.id = e

theorem Proper.nodup (h : r.Proper) : r.entries.Nodup :=
  h.imp fun hkey heq => hkey (congrArg Handle.key heq)

/-- A key is held by the handle that it finds, and by no other one that is
like it. -/
theorem Enrolled.holds_iff (hr : Enrolled R r) (n : Nat) :
    r.holds (R.handle n) = true ↔ r.lookup (R.handle n).key = some (R.handle n) := by
  unfold holds
  cases hl : r.lookup (R.handle n).key with
  | none => simp
  | some e =>
      have he := hr e (mem_of_lookup hl).1
      simp only [Option.any_some, decide_eq_true_eq, R.id_handle, Option.some.injEq]
      constructor
      · intro hid
        rw [← he, hid]
      · intro heq
        rw [heq, R.id_handle]

/-- **Deregistering takes out this very handle**, if it is there. -/
theorem Proper.entries_deregister (h : r.Proper) (hr : Enrolled R r) (n : Nat) :
    (r.deregister (R.handle n)).2.entries = r.entries.erase (R.handle n) := by
  simp only [Registry.deregister, entries_fire]
  split
  · next hh =>
      have hm := (mem_of_lookup ((hr.holds_iff n).mp hh)).1
      rw [h.nodup.erase_eq_filter]
      -- Among the entries, the key tells the handle from all others.
      refine List.filter_congr fun e he => ?_
      have hiff : e.key = (R.handle n).key ↔ e = R.handle n :=
        ⟨h.eq_of_key he hm, fun heq => heq ▸ rfl⟩
      by_cases heq : e = R.handle n <;> simp [hiff, heq]
  · next hh =>
      rw [List.erase_of_not_mem]
      intro hm
      exact hh ((hr.holds_iff n).mpr (h.lookup_of_mem hm))

/-! ## §3. What a registry has to do with its history. -/

/-- **The registry is what the history says.** -/
structure Reflects (R : Roster) (log : History) (r : Registry) : Prop where
  /-- No two entries have one key. -/
  proper : r.Proper
  /-- The entries are handles of the roster. -/
  enrolled : Enrolled R r
  /-- They are the live ones. -/
  live : ∀ n, R.handle n ∈ r.entries ↔ Live log n
  /-- They are as many as the insertions less the removals. -/
  count : r.count + log.countP isRemoval = log.countP isInsertion
  /-- A signal has fired if and only if somebody deregistered the handle or
  fired the signal. -/
  fired : ∀ n, n ∈ r.fired ↔ Signalled log n

theorem reflects_empty (R : Roster) : Reflects R [] empty where
  proper := List.Pairwise.nil
  enrolled := fun _ he => absurd he List.not_mem_nil
  live := fun n => by simp [empty, not_live_nil]
  count := rfl
  fired := fun n => by simp [empty, Signalled]

namespace Reflects

variable {log : History}

theorem lookup_iff (h : Reflects R log r) (key : LinkKey) (n : Nat) :
    r.lookup key = some (R.handle n) ↔ (R.handle n).key = key ∧ Live log n := by
  constructor
  · intro hl
    obtain ⟨hm, hk⟩ := mem_of_lookup hl
    exact ⟨hk, (h.live n).mp hm⟩
  · rintro ⟨rfl, hn⟩
    exact h.proper.lookup_of_mem ((h.live n).mpr hn)

/-- A question, or a registration that finds its key taken, leaves what it
finds. -/
theorem of_same (h : Reflects R log r) {x : Op × Answer} (hi : isInsertion x = false)
    (hr : isRemoval x = false) (hs : ∀ n, x.1 ≠ .deregister n ∧ x.1 ≠ .fire n) :
    Reflects R (log ++ [x]) r where
  proper := h.proper
  enrolled := h.enrolled
  live := fun n => by
    have hni : x ≠ insertion n := fun heq => by rw [heq] at hi; cases hi
    have hnr : x ≠ removal n := fun heq => by rw [heq] at hr; cases hr
    rw [live_concat, h.live n]
    tauto
  count := by simpa [hi, hr] using h.count
  fired := fun n => by
    rw [signalled_concat, h.fired n]
    have := hs n
    tauto

/-- A handle is live from its insertion. -/
theorem inserted (h : Reflects R log r) {n : Nat} (hl : r.lookup (R.handle n).key = none) :
    Reflects R (log ++ [insertion n]) { r with entries := R.handle n :: r.entries } where
  proper := h.proper.insert hl
  enrolled := by
    intro e he
    rcases List.mem_cons.mp he with rfl | he
    · rw [R.id_handle]
    · exact h.enrolled e he
  live := fun m => by
    have hne : insertion n ≠ removal m := fun heq => by cases heq
    rw [live_concat, List.mem_cons, h.live m]
    constructor
    · rintro (heq | hm)
      · exact .inl (by rw [R.handle_inj heq])
      · exact .inr ⟨hne, hm⟩
    · rintro (heq | ⟨-, hm⟩)
      · cases heq
        exact .inl rfl
      · exact .inr hm
  count := by
    have hc := h.count
    simp only [Registry.count, List.length_cons, List.countP_append] at hc ⊢
    simp [insertion, isInsertion, isRemoval]
    omega
  fired := fun m => by
    rw [signalled_concat, h.fired m]
    simp [insertion]

theorem mem_entries_iff_holds (h : Reflects R log r) (n : Nat) :
    R.handle n ∈ r.entries ↔ r.holds (R.handle n) = true := by
  rw [h.enrolled.holds_iff]
  exact ⟨h.proper.lookup_of_mem, fun hl => (mem_of_lookup hl).1⟩

/-- A handle is live no more when it was deregistered, and all other ones are
what they were. -/
theorem deregistered (h : Reflects R log r) (n : Nat) :
    Reflects R (log ++ [(.deregister n, .removed (r.holds (R.handle n)))])
      (r.deregister (R.handle n)).2 where
  proper := h.proper.deregister _
  enrolled := by
    intro e he
    rw [h.proper.entries_deregister h.enrolled] at he
    exact h.enrolled e (List.mem_of_mem_erase he)
  live := fun m => by
    rw [live_concat, h.proper.entries_deregister h.enrolled, h.proper.nodup.mem_erase_iff,
      h.live m]
    simp only [insertion, removal, Prod.mk.injEq, reduceCtorEq, false_and, false_or,
      Op.deregister.injEq, Answer.removed.injEq, ne_eq, not_and]
    constructor
    · rintro ⟨hne, hm⟩
      exact ⟨fun heq => absurd (by rw [heq]) hne, hm⟩
    · rintro ⟨hx, hm⟩
      refine ⟨fun heq => ?_, hm⟩
      -- A live handle is there, so that its removal succeeds.
      obtain rfl := R.handle_inj heq
      exact hx rfl ((h.mem_entries_iff_holds m).mp ((h.live m).mpr hm))
  count := by
    have hc := h.count
    simp only [Registry.count, h.proper.entries_deregister h.enrolled, List.countP_append]
      at hc ⊢
    by_cases hh : r.holds (R.handle n) = true
    · have hm := (h.mem_entries_iff_holds n).mpr hh
      have hpos := List.length_pos_of_mem hm
      rw [List.length_erase_of_mem hm, hh]
      simp only [List.countP_singleton, isRemoval, isInsertion]
      simp
      omega
    · have hm : R.handle n ∉ r.entries := fun hm => hh ((h.mem_entries_iff_holds n).mp hm)
      rw [List.erase_of_not_mem hm, Bool.eq_false_iff.mpr hh]
      simpa [isRemoval, isInsertion] using hc
  fired := fun m => by
    rw [mem_fired_deregister, R.id_handle, signalled_concat, h.fired m]
    simp only [Op.deregister.injEq, reduceCtorEq, or_false]
    tauto

/-- A signal that is fired from outside is all that changes. -/
theorem fire (h : Reflects R log r) (n : Nat) :
    Reflects R (log ++ [(.fire n, .fired (r.fire n).1)]) (r.fire n).2 where
  proper := by
    have hp := h.proper
    rwa [Proper, ← entries_fire r n] at hp
  enrolled := by
    intro e he
    rw [entries_fire] at he
    exact h.enrolled e he
  live := fun m => by
    rw [entries_fire, live_concat, h.live m]
    simp [insertion, removal]
  count := by
    have hc := h.count
    rw [Registry.count, entries_fire, List.countP_append, List.countP_append]
    simpa [isRemoval, isInsertion, Registry.count] using hc
  fired := fun m => by
    rw [mem_fired_fire, signalled_concat, h.fired m]
    simp only [reduceCtorEq, false_or, Op.fire.injEq]
    tauto

/-- **Every operation keeps the registry in step with its history.** -/
theorem perform (h : Reflects R log r) (op : Op) :
    Reflects R (log ++ [(op, (r.perform R op).1)]) (r.perform R op).2 := by
  cases op with
  | register n =>
      cases hl : r.lookup (R.handle n).key with
      | none =>
          simp only [Registry.perform, register_of_none hl]
          exact h.inserted hl
      | some e =>
          simp only [Registry.perform, register_of_some hl]
          exact h.of_same rfl rfl (by simp)
  | deregister n => exact h.deregistered n
  | lookup key => exact h.of_same rfl rfl (by simp)
  | count => exact h.of_same rfl rfl (by simp)
  | snapshot => exact h.of_same rfl rfl (by simp)
  | fire n => exact h.fire n

end Reflects

/-! ## §4. Single operations. -/

/-- **A registration succeeds under a free key only.**  Under any other one it
answers with the handle that the key finds, and changes nothing. -/
structure Registers (r : Registry) (h : Handle) : Prop where
  inserted_iff : (r.register h).1 = .inserted ↔ r.lookup h.key = none
  holds : (r.register h).1 = .inserted → (r.register h).2.lookup h.key = some h
  others : ∀ key, key ≠ h.key → (r.register h).2.lookup key = r.lookup key
  duplicate : (r.register h).1 ≠ .inserted →
    (r.register h).2 = r ∧ ∃ e, r.lookup h.key = some e ∧ (r.register h).1 = .duplicate e
  fired : (r.register h).2.fired = r.fired

/-- **A deregistration takes out this very handle**, if its key finds it, and
no other one.  Its signal has fired afterwards in any case. -/
structure Deregisters (r : Registry) (h : Handle) : Prop where
  removed_iff : (r.deregister h).1 = true ↔ r.lookup h.key = some h
  changes_iff : (r.deregister h).2.entries ≠ r.entries ↔ r.lookup h.key = some h
  gone : ∀ key, (r.deregister h).2.lookup key ≠ some h
  others : ∀ key e, e ≠ h → ((r.deregister h).2.lookup key = some e ↔ r.lookup key = some e)
  fired_iff : ∀ n, (r.deregister h).2.isFired n = true ↔ n = h.id ∨ r.isFired n = true

/-- **A signal that is fired from outside is all that changes.** -/
structure Fires (r : Registry) (n : Nat) : Prop where
  answer_iff : (r.fire n).1 = true ↔ r.isFired n = false
  fired_iff : ∀ m, (r.fire n).2.isFired m = true ↔ m = n ∨ r.isFired m = true
  lookup : ∀ key, (r.fire n).2.lookup key = r.lookup key
  count : (r.fire n).2.count = r.count
  snapshot : (r.fire n).2.snapshot = r.snapshot

/-- **A listing has each entry once, in the order of the octets of their
names.** -/
structure Lists (r : Registry) : Prop where
  nodup : r.snapshot.Nodup
  mem_iff : ∀ h, h ∈ r.snapshot ↔ r.lookup h.key = some h
  ordered : r.snapshot.Pairwise fun a b => utf8 a.name ≤ utf8 b.name

theorem registers (r : Registry) (h : Handle) : Registers r h := by
  cases hl : r.lookup h.key with
  | none =>
      constructor <;> rw [register_of_none hl]
      case inserted_iff => simp [hl]
      case holds => simp [Registry.lookup]
      case others =>
        intro key hne
        simp [Registry.lookup, Ne.symm hne]
      case duplicate => simp
  | some e =>
      constructor <;> rw [register_of_some hl]
      case inserted_iff => simp [hl]
      case holds => simp
      case others => exact fun _ _ => rfl
      case duplicate => exact fun _ => ⟨rfl, e, hl, rfl⟩

/-- On a proper registry, the keys find the entries. -/
theorem Proper.lookup_iff (h : r.Proper) (key : LinkKey) (e : Handle) :
    r.lookup key = some e ↔ e ∈ r.entries ∧ e.key = key := by
  constructor
  · exact mem_of_lookup
  · rintro ⟨he, rfl⟩
    exact h.lookup_of_mem he

theorem deregisters (h : r.Proper) (hr : Enrolled R r) (n : Nat) :
    Deregisters r (R.handle n) := by
  have hentries := h.entries_deregister hr n
  have hproper := h.deregister (R.handle n)
  constructor
  case removed_iff => exact hr.holds_iff n
  case changes_iff =>
    rw [hentries, h.lookup_iff, ne_eq, List.erase_eq_self_iff, not_not]
    simp
  case gone =>
    intro key hl
    have hm := (mem_of_lookup hl).1
    rw [hentries] at hm
    exact h.nodup.not_mem_erase hm
  case others =>
    intro key e hne
    rw [hproper.lookup_iff, h.lookup_iff, hentries, List.mem_erase_of_ne hne]
  case fired_iff =>
    intro m
    simp only [isFired, decide_eq_true_eq, mem_fired_deregister, R.id_handle]

theorem fires (r : Registry) (n : Nat) : Fires r n where
  answer_iff := by
    unfold Registry.fire isFired
    split <;> simp [*]
  fired_iff := fun m => by
    simp only [isFired, decide_eq_true_eq, mem_fired_fire]
  lookup := fun key => by rw [Registry.lookup, entries_fire, Registry.lookup]
  count := by rw [Registry.count, entries_fire, Registry.count]
  snapshot := by rw [Registry.snapshot, entries_fire, Registry.snapshot]

theorem handleLE_iff (a b : Handle) :
    handleLE a b = true ↔ toLex (a.name, a.key.text) ≤ toLex (b.name, b.key.text) :=
  pairLE_iff _ _

theorem lists (h : r.Proper) : Lists r where
  nodup := (List.mergeSort_perm r.entries handleLE).nodup_iff.mpr h.nodup
  mem_iff := fun e => by
    rw [h.lookup_iff]
    simp [Registry.snapshot]
  ordered := by
    have hsorted : r.snapshot.Pairwise fun a b => handleLE a b = true := by
      apply List.pairwise_mergeSort
      · intro a b c
        simp only [handleLE_iff]
        exact le_trans
      · intro a b
        simpa only [Bool.or_eq_true, handleLE_iff] using le_total _ _
    refine hsorted.imp fun {a b} hab => ?_
    -- Whoever comes first has the lower name, or the same name.
    rw [← textLE_iff, textLE, decide_eq_true_eq]
    exact Prod.Lex.monotone_fst _ _ ((handleLE_iff a b).mp hab)

/-! ## §5. Histories. -/

/-- Every history is that of the registry that it ends with. -/
theorem reflects_historyOf (R : Roster) (ops : List Op) :
    Reflects R (historyOf R ops).1 (historyOf R ops).2 := by
  -- Induction on the operations, from any registry that reflects its history.
  suffices ∀ s : History × Registry, Reflects R s.1 s.2 →
      Reflects R (ops.foldl (record R) s).1 (ops.foldl (record R) s).2 from
    this _ (reflects_empty R)
  induction ops with
  | nil => exact fun _ hs => hs
  | cons op ops ih => exact fun s hs => ih (record R s op) (hs.perform op)

/-- **The registry refines its history.**  After every list of operations on
an empty registry,

  • a key finds a handle if and only if it is the key of the handle, and the
    last insertion of the handle was not followed by its removal; it finds
    nothing but handles, and every entry is found under its own key,
  • the entries are as many as the insertions less the removals,
  • a signal has fired if and only if its handle was deregistered or the
    signal was fired from outside,
  • the listing, and whatever is done next, keep to the laws above. -/
theorem registry_history (R : Roster) (ops : List Op) :
    let log := (historyOf R ops).1
    let r := (historyOf R ops).2
    (∀ key n, r.lookup key = some (R.handle n) ↔ (R.handle n).key = key ∧ Live log n) ∧
    (∀ key e, r.lookup key = some e → R.handle e.id = e) ∧
    (∀ e ∈ r.entries, r.lookup e.key = some e) ∧
    log.countP isRemoval ≤ log.countP isInsertion ∧
    r.count = log.countP isInsertion - log.countP isRemoval ∧
    (∀ n, r.isFired n = true ↔ Signalled log n) ∧
    Lists r ∧
    ∀ n, Registers r (R.handle n) ∧ Deregisters r (R.handle n) ∧ Fires r n := by
  intro log r
  have h : Reflects R log r := reflects_historyOf R ops
  have hcount := h.count
  refine ⟨h.lookup_iff, ?_, fun e he => h.proper.lookup_of_mem he, by omega, by omega, ?_,
    lists h.proper, fun n => ⟨registers r _, deregisters h.proper h.enrolled n, fires r n⟩⟩
  · intro key e hl
    exact h.enrolled e (mem_of_lookup hl).1
  · intro n
    rw [isFired, decide_eq_true_eq]
    exact h.fired n

end LinkLayer.Registry

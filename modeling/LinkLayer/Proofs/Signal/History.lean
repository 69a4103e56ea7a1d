/-
  LinkLayer.Proofs.Signal.History
  ───────────────────────────────
  **SIGNALS ARE WHAT THE HISTORY OF THEIR NAMES SAYS.**

  A board of signals is used step by step, and between the steps the waiters
  look at their signals, some of them or all of them, in any order.  A log
  keeps the steps with their answers.  From the log alone one can say

    • which signal a name stands for: the `new` from which it descends by
      cloning (`origin`), whatever names were dropped or given away since,
    • who fired a signal, and what the answers were (`firings`),
    • who waits, and for which signal (`waits`).

  `Tells` says that the board is what the log tells.  Every move keeps it
  (`Tells.move`), so it holds after every run, and `signal_history` reads the
  promises off it: one firing for each signal, no waiter forgotten, and none
  released by another signal.
-/
import LinkLayer.Signal
import Mathlib.Data.List.Induction

namespace LinkLayer.SignalBoard

/-! ## §1. Logs, and what they tell. -/

/-- The steps so far with their answers, the last one first. -/
abbrev Log := List (Step × Answer)

/-- How many signals have been made. -/
def made : Log → Nat
  | [] => 0
  | (.new _, _) :: before => made before + 1
  | _ :: before => made before

/-- The signal that a name stands for: the number of the `new` from which it
descends by cloning.  A clone of nothing leaves its name as it was. -/
def origin : Log → String → Option Nat
  | [], _ => none
  | (.new name, _) :: before, x => if x = name then some (made before) else origin before x
  | (.clone name source, _) :: before, x =>
      if x = name then (origin before source).or (origin before x) else origin before x
  | (.drop name, _) :: before, x => if x = name then none else origin before x
  | _ :: before, x => origin before x

/-- The answers to those who fired a signal under any of its names, the last
one first. -/
def firings : Log → Nat → List Answer
  | [], _ => []
  | (.fire name, answer) :: before, i =>
      if origin before name = some i then answer :: firings before i else firings before i
  | _ :: before, i => firings before i

/-- Whether a signal has been fired by anybody. -/
def hasFired (log : Log) (i : Nat) : Bool := !(firings log i).isEmpty

theorem hasFired_cons (log : Log) (s : Step) (a : Answer) (i : Nat) :
    hasFired ((s, a) :: log) i = true ↔
      (∃ name, s = .fire name ∧ origin log name = some i) ∨ hasFired log i = true := by
  cases s with
  | fire name =>
    simp only [hasFired, firings]
    split
    · rename_i hi
      simp [hi]
    · rename_i hi
      simp [hi]
  | _ => simp [hasFired, firings]

/-- The waiters in the order in which they came: the label of each, and the
signal that its name stood for when it came. -/
def waits : Log → List (String × Nat)
  | [] => []
  | (.wait name label, _) :: before =>
      waits before ++ ((origin before name).map fun i => (label, i)).toList
  | _ :: before => waits before

/-- The answer that a log calls for when a step comes next. -/
def due (log : Log) : Step → Answer
  | .new _ => .nothing
  | .clone _ source => if (origin log source).isSome then .nothing else .noSuchSignal
  | .drop name => .truth (origin log name).isSome
  | .same name other =>
      match origin log name, origin log other with
      | some i, some j => .truth (i = j)
      | _, _ => .noSuchSignal
  | .fire name =>
      match origin log name with
      | some i => .truth (!hasFired log i)
      | none => .noSuchSignal
  | .fired name =>
      match origin log name with
      | some i => .truth (hasFired log i)
      | none => .noSuchSignal
  | .wait name _ => if (origin log name).isSome then .nothing else .noSuchSignal

/-- A name stands for a signal that has been made, so the next one will be
nobody's. -/
theorem origin_lt_made {log : Log} {name : String} {i : Nat} (h : origin log name = some i) :
    i < made log := by
  induction log generalizing name with
  | nil => cases h
  | cons entry before ih =>
    obtain ⟨step, answer⟩ := entry
    cases step with
    | new given =>
      simp only [origin] at h
      split at h
      · cases h
        exact Nat.lt_succ_self _
      · exact Nat.lt_succ_of_lt (ih h)
    | clone given source =>
      simp only [origin] at h
      split at h
      · rcases Option.or_eq_some_iff.mp h with hsource | ⟨-, hbefore⟩
        · exact ih hsource
        · exact ih hbefore
      · exact ih h
    | drop given =>
      simp only [origin] at h
      split at h
      · cases h
      · exact ih h
    | _ => exact ih h

/-! ## §2. The board is what the log tells. -/

/-- What happens to a board of signals. -/
inductive Move where
  /-- A step is done, and no waiter looks. -/
  | act (s : Step)
  /-- A step is done, and all waiters look. -/
  | step (s : Step)
  /-- The waiter at a place looks. -/
  | look (k : Nat)

/-- The waiter at a place looks at its signal. -/
def look (b : SignalBoard) (k : Nat) : SignalBoard :=
  { b with waiters := b.waiters.modify k fun w =>
      { w with isReleased := w.isReleased || w.signal ∈ b.fired } }

/-- The next move, and what goes on record of it. -/
def move (s : Log × SignalBoard) : Move → Log × SignalBoard
  | .act x => ((x, (s.2.act x).1) :: s.1, (s.2.act x).2)
  | .step x => ((x, (s.2.step x).1) :: s.1, (s.2.step x).2)
  | .look k => (s.1, s.2.look k)

/-- What has become of an empty board, and its log. -/
def play (moves : List Move) : Log × SignalBoard := moves.foldl move ([], empty)

/-- The board is what the log tells. -/
structure Tells (log : Log) (b : SignalBoard) : Prop where
  next : b.next = made log
  find : ∀ name, b.find? name = origin log name
  fired : ∀ i, decide (i ∈ b.fired) = hasFired log i
  waiters : b.waiters.map (fun w => (w.label, w.signal)) = waits log
  released : ∀ w ∈ b.waiters, w.isReleased = true → w.signal ∈ b.fired

theorem Tells.empty : Tells [] empty where
  next := rfl
  find _ := rfl
  fired i := by simp [SignalBoard.empty, hasFired, firings]
  waiters := rfl
  released w hw := by cases hw

/-- **A board answers a step as its log calls for.** -/
theorem Tells.answer {log : Log} {b : SignalBoard} (h : Tells log b) (s : Step) :
    (b.act s).1 = due log s := by
  cases s with
  | new name => rfl
  | drop name => simp only [act, due, h.find]
  | clone name source =>
    simp only [act, due, h.find]
    cases origin log source <;> rfl
  | same name other =>
    simp only [act, due, h.find]
    cases origin log name <;> cases origin log other <;> rfl
  | fire name =>
    simp only [act, due, h.find]
    cases origin log name with
    | none => rfl
    | some i => by_cases hi : i ∈ b.fired <;> simp [hi, ← h.fired i]
  | fired name =>
    simp only [act, due, h.find, ← h.fired]
    cases origin log name <;> rfl
  | wait name label =>
    simp only [act, due, h.find]
    cases origin log name <;> rfl

/-- What the names stand for after a step. -/
theorem find?_act (b : SignalBoard) (s : Step) (x : String) :
    (b.act s).2.find? x =
      match s with
      | .new name => if x = name then some b.next else b.find? x
      | .clone name source => if x = name then (b.find? source).or (b.find? x) else b.find? x
      | .drop name => if x = name then none else b.find? x
      | _ => b.find? x := by
  cases s with
  | new name =>
    by_cases hx : x = name
    · simp [act, bind, find?, hx]
    · simp [act, bind, find?, hx, Named.find?_put_ne]
  | clone name source =>
    by_cases hx : x = name
    · cases hs : b.find? source <;> simp_all [act, bind, find?]
    · cases hs : b.find? source <;> simp_all [act, bind, find?, Named.find?_put_ne]
  | drop name =>
    by_cases hx : x = name
    · simp [act, find?, hx]
    · simp [act, find?, hx, Named.find?_erase_ne]
  | _ => simp only [act]; repeat' (split <;> try rfl)

/-- Which signals have fired after a step. -/
theorem mem_fired_act (b : SignalBoard) (s : Step) (i : Nat) :
    i ∈ (b.act s).2.fired ↔ (∃ name, s = .fire name ∧ b.find? name = some i) ∨ i ∈ b.fired := by
  cases s with
  | fire name =>
    simp only [act]
    split
    · rename_i j hj
      split
      · rename_i hmem
        constructor
        · exact .inr
        · rintro (⟨_, ⟨⟩, hi⟩ | hi)
          · cases hj.symm.trans hi
            exact hmem
          · exact hi
      · simp [hj, eq_comm]
    · rename_i hnone
      simp [hnone]
  | new name | drop name => simp [act, bind]
  | _ => simp only [act, bind]; repeat' (split <;> try simp)

/-- Who waits after a step. -/
theorem waiters_act (b : SignalBoard) (s : Step) :
    (b.act s).2.waiters =
      match s with
      | .wait name label =>
          b.waiters ++ ((b.find? name).map fun i => Waiter.mk label i false).toList
      | _ => b.waiters := by
  cases s <;> simp only [act, bind] <;> repeat' (split <;> try simp [*])

/-- **A step without a look keeps a board what its log tells.** -/
theorem Tells.act {log : Log} {b : SignalBoard} (h : Tells log b) (s : Step) :
    Tells ((s, (b.act s).1) :: log) (b.act s).2 where
  next := by
    cases s with
    | new name => simp [SignalBoard.act, SignalBoard.bind, made, h.next]
    | _ => simp only [SignalBoard.act, made, ← h.next]; repeat' (split <;> try rfl)
  find x := by
    rw [find?_act]
    cases s <;> simp only [origin, h.find, h.next]
  fired i := by
    rw [Bool.eq_iff_iff, decide_eq_true_eq, mem_fired_act, hasFired_cons, ← h.fired i,
      decide_eq_true_eq]
    simp only [h.find]
  waiters := by
    rw [waiters_act]
    cases s with
    | wait name label =>
      rw [List.map_append, h.waiters, h.find]
      cases hn : origin log name <;> simp [waits, hn]
    | _ => exact h.waiters
  released w hw hr := by
    have hold : w ∈ b.waiters := by
      rw [waiters_act] at hw
      cases s with
      | wait name label =>
        rcases List.mem_append.mp hw with hw | hw
        · exact hw
        · -- Who has just come has not looked yet.
          cases hn : b.find? name with
          | none => simp [hn] at hw
          | some i =>
            simp only [hn, Option.map_some, Option.toList_some, List.mem_singleton] at hw
            rw [hw] at hr
            cases hr
      | _ => exact hw
    exact (mem_fired_act b s w.signal).mpr (.inr (h.released w hold hr))

/-- All waiters look. -/
theorem Tells.settle {log : Log} {b : SignalBoard} (h : Tells log b) : Tells log b.settle where
  next := h.next
  find := h.find
  fired := h.fired
  waiters := by
    rw [← h.waiters, SignalBoard.settle, List.map_map]
    rfl
  released w hw hr := by
    obtain ⟨w₀, hw₀, rfl⟩ := List.mem_map.mp hw
    rcases Bool.or_eq_true_iff.mp hr with hr | hr
    · exact h.released w₀ hw₀ hr
    · exact of_decide_eq_true hr

/-- The waiter at a place looks. -/
theorem Tells.look {log : Log} {b : SignalBoard} (h : Tells log b) (k : Nat) :
    Tells log (b.look k) where
  next := h.next
  find := h.find
  fired := h.fired
  waiters := by
    rw [← h.waiters]
    refine List.ext_getElem? fun n => ?_
    by_cases hn : k = n <;> simp [SignalBoard.look, hn, Function.comp_def]
  released w hw hr := by
    obtain ⟨n, hn⟩ := List.getElem?_of_mem hw
    rw [SignalBoard.look, List.getElem?_modify] at hn
    obtain ⟨w₀, hw₀, rfl⟩ := Option.map_eq_some_iff.mp hn
    have hold := h.released w₀ (List.mem_of_getElem? hw₀)
    by_cases hk : k = n
    · simp only [hk, if_true] at hr ⊢
      rcases Bool.or_eq_true_iff.mp hr with hr | hr
      · exact hold hr
      · exact of_decide_eq_true hr
    · simp only [hk, if_false] at hr ⊢
      exact hold hr

/-- Every move keeps a board what its log tells. -/
theorem Tells.move {s : Log × SignalBoard} (h : Tells s.1 s.2) (m : Move) :
    Tells (SignalBoard.move s m).1 (SignalBoard.move s m).2 := by
  cases m with
  | act x => exact h.act x
  | step x => exact (h.act x).settle
  | look k => exact h.look k

/-- **After every run the board is what its log tells.** -/
theorem tells_play (moves : List Move) : Tells (play moves).1 (play moves).2 := by
  induction moves using List.reverseRecOn with
  | nil => exact Tells.empty
  | append_singleton moves m ih =>
    rw [play, List.foldl_append]
    exact ih.move m

/-! ## §3. Answers, firings and waiters. -/

/-- Every answer on the log is the one that was due. -/
def Answered (log : Log) : Prop :=
  ∀ after step answer before, log = after ++ (step, answer) :: before → answer = due before step

theorem answered_cons {log : Log} (h : Answered log) (s : Step) :
    Answered ((s, due log s) :: log) := by
  intro after step answer before hsplit
  cases after with
  | nil =>
    cases hsplit
    rfl
  | cons entry after =>
    cases hsplit
    exact h after step answer before rfl

/-- A board answers every step as the log of that time calls for. -/
theorem answered_play (moves : List Move) : Answered (play moves).1 := by
  induction moves using List.reverseRecOn with
  | nil =>
    intro after step answer before hsplit
    simp [play] at hsplit
  | append_singleton moves m ih =>
    have htells := tells_play moves
    rw [play, List.foldl_append]
    change Answered (SignalBoard.move (play moves) m).1
    cases m with
    | act x =>
      have := answered_cons ih x
      rwa [← htells.answer] at this
    | step x =>
      have := answered_cons ih x
      rwa [← htells.answer] at this
    | look k => exact ih

/-- **The first who fires a signal is told so, and nobody after.** -/
theorem firings_eq {log : Log} (h : Answered log) (i : Nat) :
    firings log i = [] ∨
      ∃ n, firings log i = List.replicate n (.truth false) ++ [.truth true] := by
  induction log with
  | nil => exact .inl rfl
  | cons entry before ih =>
    obtain ⟨step, answer⟩ := entry
    have hbefore : Answered before := fun after s a rest hsplit =>
      h ((step, answer) :: after) s a rest (by rw [hsplit]; rfl)
    cases step with
    | fire name =>
      simp only [firings]
      split
      · rename_i hname
        have hanswer : answer = .truth (!hasFired before i) := by
          rw [h [] _ _ _ rfl, due, hname]
        refine .inr ?_
        rcases ih hbefore with hnone | ⟨n, hsome⟩
        · exact ⟨0, by simp [hnone, hanswer, hasFired]⟩
        · exact ⟨n + 1, by simp [hsome, hanswer, hasFired, List.replicate_succ]⟩
      · exact ih hbefore
    | _ => exact ih hbefore

/-- **Who is released**, once all waiters have looked. -/
theorem Tells.released_iff {log : Log} {b : SignalBoard} (h : Tells log b) :
    b.settle.waiters.map (fun w => (w.label, w.isReleased)) =
      (waits log).map fun x => (x.1, hasFired log x.2) := by
  rw [← h.waiters, SignalBoard.settle, List.map_map, List.map_map]
  refine List.map_congr_left fun w hw => ?_
  simp only [Function.comp_apply, ← h.fired w.signal, Prod.mk.injEq, true_and]
  cases hr : w.isReleased with
  | false => rfl
  | true => simp [h.released w hw hr]

/-- **Firing a signal is nothing to those who wait for another one.** -/
theorem Tells.other {log : Log} {b : SignalBoard} (h : Tells log b) {name : String} {k : Nat}
    {w : Waiter} (hw : b.settle.waiters[k]? = some w) (hname : origin log name ≠ some w.signal) :
    (b.step (.fire name)).2.waiters[k]? = some w := by
  have hfired : ∀ i, origin log name ≠ some i →
      (i ∈ (b.act (.fire name)).2.fired ↔ i ∈ b.fired) := by
    intro i hi
    rw [mem_fired_act]
    simp [h.find, hi]
  rw [SignalBoard.settle, List.getElem?_map, Option.map_eq_some_iff] at hw
  obtain ⟨w₀, hw₀, rfl⟩ := hw
  change (b.act (.fire name)).2.settle.waiters[k]? = _
  rw [SignalBoard.settle, List.getElem?_map, waiters_act, hw₀]
  simp only [Option.map_some, hfired w₀.signal hname]

/-- **Signals, over every run.**  Steps on a board of signals are done one
after the other, while waiters look at their signals at any time.

  * Two names are one signal if and only if they descend by cloning from one
    `new`; a signal that is made is nobody's before.
  * Every answer is the one that the log calls for, and of those who fire a
    signal the first one is told that it did, and nobody after.
  * Only waiters are released whose signal has been fired.
  * Once all waiters have looked, all of those are released, whether the
    firing came before or after them.
  * Firing a signal is nothing to those who wait for another one. -/
theorem signal_history (moves : List Move) :
    let log := (play moves).1
    let b := (play moves).2
    (∀ name other i j, origin log name = some i → origin log other = some j →
      ((b.act (.same name other)).1 = .truth true ↔ i = j)) ∧
    (∀ name i, origin log name = some i → i < made log) ∧
    Answered log ∧
    (∀ i, firings log i = [] ∨
      ∃ n, firings log i = List.replicate n (.truth false) ++ [.truth true]) ∧
    (∀ (k : Nat) w, b.waiters[k]? = some w → (waits log)[k]? = some (w.label, w.signal) ∧
      (w.isReleased = true → hasFired log w.signal = true)) ∧
    b.settle.waiters.map (fun w => (w.label, w.isReleased)) =
      (waits log).map (fun x => (x.1, hasFired log x.2)) ∧
    ∀ name (k : Nat) w, b.settle.waiters[k]? = some w → origin log name ≠ some w.signal →
      (b.step (.fire name)).2.waiters[k]? = some w := by
  have h := tells_play moves
  have hanswered := answered_play moves
  refine ⟨fun name other i j hi hj => ?_, fun _ _ => origin_lt_made, hanswered,
    firings_eq hanswered, fun k w hw => ⟨?_, fun hr => ?_⟩, h.released_iff,
    fun _ _ _ => h.other⟩
  · simp [h.answer, due, hi, hj]
  · rw [← h.waiters, List.getElem?_map, hw, Option.map_some]
  · rw [← h.fired]
    exact decide_eq_true (h.released w (List.mem_of_getElem? hw) hr)

/-- The waiter came under a name that was given away before its signal was
fired under another one. -/
example :
    (play [.step (.new "a"), .step (.clone "b" "a"), .step (.wait "a" "first"), .step (.new "a"),
      .act (.wait "a" "second"), .act (.fire "b"), .look 0]).2.released = ["first"] := by
  decide

end LinkLayer.SignalBoard

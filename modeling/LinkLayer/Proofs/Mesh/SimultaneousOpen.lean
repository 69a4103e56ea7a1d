/-
  LinkLayer.Proofs.Mesh.SimultaneousOpen
  ──────────────────────────────────────
  **TWO NODES THAT DIAL EACH OTHER AT THE SAME TIME.**

  Each of two nodes dials the other, so there are two connections with one
  key.  Each node decides by itself, and by the order in which the two
  connections ask it for their registration:

    • `simultaneous_open` — at each node the first one to ask is kept, and
      the second one is its duplicate if it finds it there.  Hence one of the
      two connections is kept at both ends, unless the nodes let different
      ones come first and each finds the first one there when the second one
      asks (`Crossed`),
    • `crossed_open` — that happens: then each node keeps the connection
      that the other one closes as a duplicate.
-/
import LinkLayer.Proofs.Mesh.Basic
import LinkLayer.Transport.Scripted

namespace LinkLayer

/-! ## §1. The contest at one node. -/

namespace World

variable {σ τ : Type} {me me' : Identity} {w : World σ} {w' : World τ}

/-- Two connections of a node have the same labels, their handlers have both
asked for a registration and decided, and nobody else has asked for the key
that they have if they lead to a certain peer. -/
structure Contest (w : World σ) (peer : Identity) (n k : Nat) : Prop where
  labels : ∃ c c', w.connection n = some c ∧ w.connection k = some c' ∧
    c.kind = c'.kind ∧ c.source = c'.source ∧ c.remote = c'.remote
  first : ∃ entry holder, Deed.asked entry holder ∈ w.deedsOf n
  second : ∃ entry holder, Deed.asked entry holder ∈ w.deedsOf k
  decided : w.Decided n ∧ w.Decided k
  only : ∀ c i entry holder, w.connection n = some c → Deed.asked entry holder ∈ w.deedsOf i →
    entry.key = ⟨peer, c.kind, c.source, c.remote⟩ → i = n ∨ i = k

/-- Of two connections, the first one to ask is kept, and the other one is
kept too unless it finds the first one there. -/
def DecidedFor (w : World σ) (n k : Nat) : Prop :=
  w.AsksBefore n k ∧ w.Kept n ∧ (w.Kept k ↔ ¬ w.DuplicateOf k n)

/-- Over cables, the two connections of a contest are rivals. -/
theorem Contest.rivals {n k i j : Nat} (h : Contest w' me n k) (hw : w.Sound me)
    (hw' : w'.Sound me') (hn : Carried w w' i n) (hk : Carried w w' j k) (hne : n ≠ k) :
    ∃ key, Rivals w' key n k := by
  obtain ⟨c, c', hc, hc', hkind, hsource, hremote⟩ := h.labels
  obtain ⟨entry, holder, hasked⟩ := h.first
  obtain ⟨entry', holder', hasked'⟩ := h.second
  obtain ⟨d, hd, hkey⟩ := hn.key hw hw' hasked
  obtain ⟨d', hd', hkey'⟩ := hk.key hw hw' hasked'
  rw [hc] at hd
  rw [hc'] at hd'
  cases hd
  cases hd'
  refine ⟨⟨me, c.kind, c.source, c.remote⟩, hne, ⟨entry, holder, hasked, hkey⟩,
    ⟨entry', holder', hasked', ?_⟩, fun i entry holder => h.only c i entry holder hc⟩
  rw [hkey', hkind, hsource, hremote]

/-- **Each node decides for the one that asks first.** -/
theorem Rivals.decided {key : LinkKey} {n k : Nat} (h : Rivals w key n k) (hw : w.Sound me)
    (ha : Attributed w.deeds) (hn : w.Decided n) (hk : w.Decided k) :
    w.DecidedFor n k ∨ w.DecidedFor k n := by
  rcases h.order with hb | hb
  · exact .inl ⟨hb, h.first_kept hw ha hn hb, h.second_kept hw ha hk⟩
  · exact .inr ⟨hb, h.symm.first_kept hw ha hk hb, h.symm.second_kept hw ha hn⟩

end World

/-! ## §2. The contest at both nodes. -/

namespace Mesh

variable {σ τ : Type}

/-- A connection is registered and handed over at both ends. -/
def KeptAtBothEnds (m : Mesh σ τ) (x : Nat × Nat) : Prop :=
  m.left.Kept x.1 ∧ m.right.Kept x.2

/-- One connection comes first at the left and the other one at the right, and
each is found by the other one where it came first. -/
def Crossed (m : Mesh σ τ) (x y : Nat × Nat) : Prop :=
  (m.left.AsksBefore x.1 y.1 ∧ m.left.DuplicateOf y.1 x.1) ∧
    m.right.AsksBefore y.2 x.2 ∧ m.right.DuplicateOf x.2 y.2

/-- What two decisions mean for a connection that comes first at one node, and
for one that comes first at the other. -/
theorem kept_of_decided {m : Mesh σ τ} {x y : Nat × Nat} (hl : m.left.DecidedFor x.1 y.1)
    (hr : m.right.DecidedFor y.2 x.2) :
    m.KeptAtBothEnds x ∨ m.KeptAtBothEnds y ∨ m.Crossed x y := by
  obtain ⟨hlb, hlk, hld⟩ := hl
  obtain ⟨hrb, hrk, hrd⟩ := hr
  by_cases hy : m.left.Kept y.1
  · exact .inr (.inl ⟨hy, hrk⟩)
  · by_cases hx : m.right.Kept x.2
    · exact .inl ⟨hlk, hx⟩
    · have hdup := not_not.mp (mt hld.mpr hy)
      have hdup' := not_not.mp (mt hrd.mpr hx)
      exact .inr (.inr ⟨⟨hlb, hdup⟩, hrb, hdup'⟩)

/-- Where the connections cross, neither is kept at both ends. -/
theorem Crossed.not_kept {m : Mesh σ τ} {x y : Nat × Nat} {a b : Identity}
    (h : m.Crossed x y) (hl : m.left.Sound a) (hr : m.right.Sound b) :
    ¬ m.KeptAtBothEnds x ∧ ¬ m.KeptAtBothEnds y := by
  obtain ⟨⟨-, hdup⟩, -, hdup'⟩ := h
  exact ⟨fun hx => hr.not_kept_of_duplicate hdup' hx.2,
    fun hy => hl.not_kept_of_duplicate hdup hy.1⟩

/-- **Two nodes that open connections to each other keep one of them, unless
these cross.**  Take any run of two nodes and two cables `x` and `y` between
them, such that at each node the two connections have the same labels, both
have asked for their registration and decided, and nobody else has asked for
the key of that peer and these labels.  Then

  • each node keeps the first one to ask, and the other one unless that finds
    the first one in the registry,
  • a connection that comes first at both nodes is kept at both ends,
  • one of the two connections is kept at both ends, if and only if they do
    not cross. -/
theorem simultaneous_open (T : Transport σ) (T' : Transport τ) (cables : Cables)
    (a b : Identity) (settings settings' : Settings) (engine engine' : Engine) (s : σ) (s' : τ)
    (acts : List (MeshAct σ τ)) (x y : Nat × Nat) (hx : x ∈ cables.pairs)
    (hy : y ∈ cables.pairs) (hxy : x ≠ y) :
    let m := (start a b settings settings' engine engine' s s').run T T' cables acts
    m.left.Contest b x.1 y.1 → m.right.Contest a x.2 y.2 →
    (m.left.DecidedFor x.1 y.1 ∨ m.left.DecidedFor y.1 x.1) ∧
    (m.right.DecidedFor x.2 y.2 ∨ m.right.DecidedFor y.2 x.2) ∧
    (m.left.AsksBefore x.1 y.1 → m.right.AsksBefore x.2 y.2 → m.KeptAtBothEnds x) ∧
    (m.left.AsksBefore y.1 x.1 → m.right.AsksBefore y.2 x.2 → m.KeptAtBothEnds y) ∧
    ((m.KeptAtBothEnds x ∨ m.KeptAtBothEnds y) ↔ ¬ (m.Crossed x y ∨ m.Crossed y x)) := by
  intro m hleft hright
  have hm : m.Sound a b cables :=
    (start_sound a b settings settings' engine engine' s s').run T T' acts
  have hne₁ : x.1 ≠ y.1 := by
    intro h
    exact hxy (Prod.ext h ((pair_eq hx hy).mp h))
  have hne₂ : x.2 ≠ y.2 := by
    intro h
    exact hxy (Prod.ext ((pair_eq hx hy).mpr h) h)
  -- What was received over a cable names the node at its other end, so at each
  -- node the two connections have one key.
  obtain ⟨key, hrivals⟩ := hleft.rivals hm.right hm.left (hm.toLeft _ _ hx) (hm.toLeft _ _ hy) hne₁
  obtain ⟨key', hrivals'⟩ :=
    hright.rivals hm.left hm.right (hm.toRight _ _ hx) (hm.toRight _ _ hy) hne₂
  obtain ⟨hdx, hdy⟩ := hleft.decided
  obtain ⟨hdx', hdy'⟩ := hright.decided
  have hdl := hrivals.decided hm.left hm.leftHolders hdx hdy
  have hdr := hrivals'.decided hm.right hm.rightHolders hdx' hdy'
  refine ⟨hdl, hdr, ?_, ?_, ?_, ?_⟩
  · intro hl hr
    exact ⟨hrivals.first_kept hm.left hm.leftHolders hdx hl,
      hrivals'.first_kept hm.right hm.rightHolders hdx' hr⟩
  · intro hl hr
    exact ⟨hrivals.symm.first_kept hm.left hm.leftHolders hdy hl,
      hrivals'.symm.first_kept hm.right hm.rightHolders hdy' hr⟩
  · rintro hkept (hc | hc)
    · obtain ⟨hnx, hny⟩ := hc.not_kept hm.left hm.right
      exact hkept.elim hnx hny
    · obtain ⟨hny, hnx⟩ := hc.not_kept hm.left hm.right
      exact hkept.elim hnx hny
  · intro hcross
    -- The nodes agree in the first and the last of the four cases.
    rcases hdl with hl | hl <;> rcases hdr with hr | hr
    · exact .inl ⟨hl.2.1, hr.2.1⟩
    · rcases kept_of_decided hl hr with h | h | h
      · exact .inl h
      · exact .inr h
      · exact absurd (.inl h) hcross
    · rcases kept_of_decided hl hr with h | h | h
      · exact .inr h
      · exact .inl h
      · exact absurd (.inr h) hcross
    · exact .inr ⟨hl.2.1, hr.2.1⟩

/-! ## §3. Two runs. -/

/-- Two nodes with scripted transports. -/
def twoNodes : Mesh Script Script :=
  start (.replicate 0xaa) (.replicate 0xbb) {} {} .collect .collect {} {}

/-- The cables of connections 0 and 1. -/
def twoCables : Cables := ⟨[(0, 0), (1, 1)], by decide, by decide⟩

/-- A handler at the left makes some moves. -/
def leftMoves (t count : Nat) : List (MeshAct Script Script) :=
  List.replicate count (.left (.task t))

/-- A handler at the right makes some moves. -/
def rightMoves (t count : Nat) : List (MeshAct Script Script) :=
  List.replicate count (.right (.task t))

/-- Connection 0 is dialled by the left node and connection 1 by the right
one; all four frames are sent, and arrive. -/
def openBoth : List (MeshAct Script Script) :=
  [.left (.make .tcp "x" "a" "b" 1024 {}), .left (.make .tcp "y" "a" "b" 1024 {}),
    .right (.make .tcp "x" "b" "a" 1024 {}), .right (.make .tcp "y" "b" "a" 1024 {}),
    .left (.run 0 false false {}), .left (.accept 1 false),
    .right (.accept 0 false), .right (.run 1 false false {})] ++
  leftMoves 0 4 ++ leftMoves 1 4 ++ rightMoves 0 4 ++ rightMoves 1 4 ++
  [.toRight 0 0 35, .toLeft 0 0 35, .toRight 1 1 35, .toLeft 1 1 35]

/-- Each node lets its own connection come first. -/
def ownFirst : List (MeshAct Script Script) :=
  openBoth ++ leftMoves 0 5 ++ rightMoves 1 5 ++ leftMoves 1 5 ++ rightMoves 0 5

/-- Both nodes let connection 0 come first. -/
def sameFirst : List (MeshAct Script Script) :=
  openBoth ++ leftMoves 0 5 ++ rightMoves 0 5 ++ leftMoves 1 5 ++ rightMoves 1 5

/-- The two nodes after a run. -/
def after (acts : List (MeshAct Script Script)) : Mesh Script Script :=
  twoNodes.run Script.transport Script.transport twoCables acts

theorem after_sound (acts : List (MeshAct Script Script)) :
    (after acts).Sound (.replicate 0xaa) (.replicate 0xbb) twoCables :=
  (start_sound _ _ _ _ _ _ _ _).run _ _ _

/-- What is to be looked up for a contest between connections 0 and 1. -/
theorem contest_of_record {w : World Script} {peer : Identity} (c c' : Connection)
    (hc : w.connection 0 = some c ∧ w.connection 1 = some c' ∧
      c.kind = c'.kind ∧ c.source = c'.source ∧ c.remote = c'.remote)
    (hasked : (w.deedsOf 0).any Deed.isQuestion = true ∧
      (w.deedsOf 1).any Deed.isQuestion = true ∧ ∀ d ∈ w.deeds, d.1 = 0 ∨ d.1 = 1)
    (hdecided : w.place 0 = .taken 0 ∧ w.place 1 = .taken 1 ∧
      (w.handler? 0).all (·.movesToDecide = 0) = true ∧
      (w.handler? 1).all (·.movesToDecide = 0) = true) :
    w.Contest peer 0 1 := by
  obtain ⟨hp, hp', hmoves, hmoves'⟩ := hdecided
  have hquestion : ∀ {n : Nat}, (w.deedsOf n).any Deed.isQuestion = true →
      ∃ entry holder, Deed.asked entry holder ∈ w.deedsOf n := by
    intro n hn
    obtain ⟨d, hd, hq⟩ := List.any_eq_true.mp hn
    obtain ⟨entry, holder, rfl⟩ := Deed.isQuestion_iff.mp hq
    exact ⟨entry, holder, hd⟩
  refine ⟨⟨c, c', hc⟩, hquestion hasked.1, hquestion hasked.2.1, ⟨?_, ?_⟩, ?_⟩
  · intro t h ht hh
    rw [hp] at ht
    cases ht
    simpa [hh] using hmoves
  · intro t h ht hh
    rw [hp'] at ht
    cases ht
    simpa [hh] using hmoves'
  · intro c i entry holder _ ha _
    exact hasked.2.2 _ (World.mem_deedsOf.mp ha)

/-- What is to be looked up for an order of questions: a number of deeds that
contains a question of the one and none of the other. -/
theorem asksBefore_of_record {w : World Script} {n k : Nat} (count : Nat)
    (h : (w.deeds.take count).any (fun d => decide (d.1 = n) && d.2.isQuestion) = true)
    (h' : (w.deeds.take count).any (fun d => decide (d.1 = k) && d.2.isQuestion) = false) :
    w.AsksBefore n k := by
  refine ⟨w.deeds.take count, w.deeds.drop count, (List.take_append_drop _ _).symm, ?_, ?_⟩
  · obtain ⟨⟨i, d⟩, hd, hq⟩ := List.any_eq_true.mp h
    simp only [Bool.and_eq_true, decide_eq_true_eq] at hq
    obtain ⟨rfl, hq⟩ := hq
    obtain ⟨entry, holder, rfl⟩ := Deed.isQuestion_iff.mp hq
    exact ⟨entry, holder, hd⟩
  · intro entry holder hin
    have hnot := List.any_eq_false.mp h' _ hin
    simp [Deed.isQuestion] at hnot

/-- The four handlers of `ownFirst` have asked and decided. -/
theorem ownFirst_contest : (after ownFirst).left.Contest (.replicate 0xbb) 0 1 ∧
    (after ownFirst).right.Contest (.replicate 0xaa) 0 1 := by
  constructor
  · exact contest_of_record ⟨0, .tcp, "x", "a", "b"⟩ ⟨1, .tcp, "y", "a", "b"⟩
      (by decide +kernel) (by decide +kernel) (by decide +kernel)
  · exact contest_of_record ⟨0, .tcp, "x", "b", "a"⟩ ⟨1, .tcp, "y", "b", "a"⟩
      (by decide +kernel) (by decide +kernel) (by decide +kernel)

/-- Each node finds its own connection when the other one asks. -/
theorem ownFirst_duplicates : (after ownFirst).left.DuplicateOf 1 0 ∧
    (after ownFirst).right.DuplicateOf 0 1 := by
  constructor
  · exact ⟨⟨1, "y", ⟨.replicate 0xbb, .tcp, "a", "b"⟩, true⟩,
      ⟨0, "x", ⟨.replicate 0xbb, .tcp, "a", "b"⟩, false⟩, by decide +kernel, rfl⟩
  · exact ⟨⟨0, "x", ⟨.replicate 0xaa, .tcp, "b", "a"⟩, true⟩,
      ⟨1, "y", ⟨.replicate 0xaa, .tcp, "b", "a"⟩, false⟩, by decide +kernel, rfl⟩

/-- **Two nodes that open connections to each other need not keep one**: with
each node's own connection first, either connection is closed at one end as a
duplicate of the other one. -/
theorem crossed_open :
    ¬ ∀ acts : List (MeshAct Script Script),
      (after acts).left.Contest (.replicate 0xbb) 0 1 →
      (after acts).right.Contest (.replicate 0xaa) 0 1 →
      (after acts).KeptAtBothEnds (0, 0) ∨ (after acts).KeptAtBothEnds (1, 1) := by
  intro h
  obtain ⟨hl, hr⟩ := ownFirst_contest
  obtain ⟨hdl, hdr⟩ := ownFirst_duplicates
  have hm := after_sound ownFirst
  rcases h ownFirst hl hr with hx | hy
  · exact hm.right.not_kept_of_duplicate hdr hx.2
  · exact hm.left.not_kept_of_duplicate hdl hy.1

/-- The four handlers of `sameFirst` have asked and decided too. -/
theorem sameFirst_contest : (after sameFirst).left.Contest (.replicate 0xbb) 0 1 ∧
    (after sameFirst).right.Contest (.replicate 0xaa) 0 1 := by
  constructor
  · exact contest_of_record ⟨0, .tcp, "x", "a", "b"⟩ ⟨1, .tcp, "y", "a", "b"⟩
      (by decide +kernel) (by decide +kernel) (by decide +kernel)
  · exact contest_of_record ⟨0, .tcp, "x", "b", "a"⟩ ⟨1, .tcp, "y", "b", "a"⟩
      (by decide +kernel) (by decide +kernel) (by decide +kernel)

/-- At both nodes connection 0 is the first one to ask. -/
theorem sameFirst_order : (after sameFirst).left.AsksBefore 0 1 ∧
    (after sameFirst).right.AsksBefore 0 1 :=
  ⟨asksBefore_of_record 5 (by decide +kernel) (by decide +kernel),
    asksBefore_of_record 5 (by decide +kernel) (by decide +kernel)⟩

/-- With the same connection first at both nodes, that one is kept at both
ends. -/
theorem simultaneous_open_sameFirst :
    (after sameFirst).left.Contest (.replicate 0xbb) 0 1 ∧
    (after sameFirst).right.Contest (.replicate 0xaa) 0 1 ∧
    (after sameFirst).KeptAtBothEnds (0, 0) := by
  obtain ⟨hl, hr⟩ := sameFirst_contest
  obtain ⟨hl₁, hr₁⟩ := sameFirst_order
  refine ⟨hl, hr, ?_⟩
  unfold after twoNodes at *
  have h := simultaneous_open Script.transport Script.transport twoCables (.replicate 0xaa)
    (.replicate 0xbb) {} {} .collect .collect {} {} sameFirst (0, 0) (1, 1) (by decide)
    (by decide) (by decide)
  exact (h hl hr).2.2.1 hl₁ hr₁

end Mesh

end LinkLayer

/-
  LinkLayer.Proofs.Mesh.Agreement
  ───────────────────────────────
  **WHAT THE TWO ENDS OF A CONNECTION AGREE ON.**

  Each end of a connection announces the identity of its node and the metric
  of its link.  What an end receives over a cable is the announcement of the
  other end (`Carried.announced`), so

    • if both ends hand over, each engine gets the identity of the other node,
      and both get the larger one of the two metrics,
    • if one end hands over, the other end cannot be of another version, and
      cannot have found its node stopped: it has sent its frame.  `Excused`
      lists what is left.

  `two_party_agreement` is both of these, for every run of two nodes.  The
  proof needs to know of either node that nothing is sent on a connection
  before its handler has begun (`silent_run`).
-/
import LinkLayer.Proofs.Mesh.SimultaneousOpen
import LinkLayer.Proofs.World.Admission
import LinkLayer.Proofs.World.AfterStop
import LinkLayer.Proofs.World.Unbegun

namespace LinkLayer

open Handler (Over Story Refuses Rejected IsPinned IsAllowed)

namespace World

variable {σ τ : Type} {me me' : Identity} {w : World σ} {v : World τ} {i j : Nat}

/-! ## §1. What is received is what was announced. -/

/-- **What an end receives over a cable is the frame of the link that has begun
at the other end.** -/
theorem Carried.announced (hc : Carried w v i j) (hw : w.Sound me) (hv : v.Sound me')
    (hs : w.Silent) {octets : Bytes} (ho : Deed.received octets ∈ v.deedsOf j) :
    ∃ l settings, Deed.began l settings ∈ w.deedsOf i ∧ octets = (l.frame me).encode := by
  obtain ⟨hlen, hpre, hne⟩ := hc.received hv ho
  -- So something is on record, and what is sent carries the stamp of its link.
  have hrecord : w.deedsOf i ≠ [] := fun hnil => hne (hs i hnil)
  obtain ⟨d, hd⟩ := List.exists_mem_of_ne_nil _ hrecord
  obtain ⟨t, c, wire, task, -, -, hcw, hwire, -, hatt⟩ := hw.of_mem_deedsOf hd
  obtain ⟨l, -, hstory, hstamped, -⟩ := hatt.story
  obtain ⟨settings, hbegan⟩ := hstory.began hrecord
  have hsent : w.sentAt i = wire.sent := by simp [sentAt, hwire]
  rw [hsent] at hpre
  exact ⟨l, settings, hbegan, Frame.eq_encode_of_prefix hlen hpre hstamped⟩

/-! ## §2. What both ends get. -/

/-- A handler begins once. -/
theorem Sound.began_unique (hw : w.Sound me) {l l' : Link} {settings settings' : Settings}
    (h : Deed.began l settings ∈ w.deedsOf n) (h' : Deed.began l' settings' ∈ w.deedsOf n) :
    l = l' ∧ settings = settings' := by
  obtain ⟨l₀, -, -, -, hstory⟩ := hw.story h
  -- In every story, the beginning comes first and not again.
  have hfirst : ∀ {l settings}, Deed.began l settings ∈ w.deedsOf n →
      (w.deedsOf n).head? = some (.began l settings) := by
    intro l settings hin
    generalize w.deedsOf n = ds at hstory hin
    cases hstory <;>
      simp_all [Handler.servedLog, Handler.askedLog, Handler.readLog]
  have heq := (hfirst h).symm.trans (hfirst h')
  cases heq
  exact ⟨rfl, rfl⟩

/-- **An end that hands over gives its engine the identity of the other node,
and the larger one of the two metrics.** -/
theorem Carried.handOvers (hc : Carried v w j i) (hw : w.Sound me) (hv : v.Sound me')
    (hs : v.Silent) (hk : w.Kept i) :
    ∃ l l' settings settings', Deed.began l settings ∈ w.deedsOf i ∧
      Deed.began l' settings' ∈ v.deedsOf j ∧
      w.handOvers i = [(me', max l.options.metric l'.options.metric)] := by
  obtain ⟨peer, metric, hover⟩ := hk
  obtain ⟨l, c, -, -, hstory⟩ := hw.story hover
  obtain ⟨settings, octets, frame, hwel, hds⟩ := hstory.of_handedOver hover
  have hread : Deed.received octets ∈ w.deedsOf i := by
    rw [hds]
    simp [Handler.servedLog, Handler.askedLog, Handler.readLog]
  obtain ⟨l', settings', hbegan', rfl⟩ := hc.announced hv hw hs hread
  have hframe := hwel.decoded
  rw [Frame.decode_encode] at hframe
  cases hframe
  refine ⟨l, l', settings, settings', ?_, hbegan', handOvers_of_served hds⟩
  rw [hds]
  simp [Handler.servedLog, Handler.askedLog, Handler.readLog]

/-- How one end of a connection can end while the other end is handed over: by
a timeout or a failure of the wire, because of its pinned keys or its
allow-list, as a duplicate, or by a cancellation. -/
inductive Excused (l : Link) (settings : Settings) (peer : Identity) : Outcome → Prop
  | sendTimeout : Excused l settings peer (.failed .sendTimeout)
  | recvTimeout : Excused l settings peer (.failed .recvTimeout)
  | sendFailed (reason : String) : Excused l settings peer (.failed (.sendFailed reason))
  | recvFailed (reason : String) : Excused l settings peer (.failed (.recvFailed reason))
  | notPinned : ¬ IsPinned l peer → Excused l settings peer (.failed (.pinnedKeyMismatch l.name))
  | notAllowed : ¬ IsAllowed l settings peer → Excused l settings peer .finished
  | duplicate (existing : Handle) : Excused l settings peer (.duplicate existing)
  | cancelled : Excused l settings peer .cancelled

/-- An end parts from a node: it has begun, and has an excuse.  So it is not
because of the version, nor because its own node was stopped. -/
structure Parts (w : World σ) (n : Nat) (peer : Identity) (outcome : Outcome) : Prop where
  excused : ∃ l settings, Deed.began l settings ∈ w.deedsOf n ∧ Excused l settings peer outcome
  not_stopped : outcome ≠ .failed .stopped
  not_version : ∀ own theirs, outcome ≠ .failed (.incompatibleVersion own theirs)

theorem Parts.of_excused {peer : Identity} {outcome : Outcome} {l : Link} {settings : Settings}
    (hb : Deed.began l settings ∈ w.deedsOf n) (he : Excused l settings peer outcome) :
    w.Parts n peer outcome where
  excused := ⟨l, settings, hb, he⟩
  not_stopped := by
    rintro rfl
    cases he
  not_version := by
    rintro own theirs rfl
    cases he

/-- Whoever was handed over is on the list of hand-overs. -/
theorem handOvers_of_kept (hk : w.Kept n) : w.handOvers n ≠ [] := by
  obtain ⟨peer, metric, hover⟩ := hk
  exact List.ne_nil_of_mem (List.mem_filterMap.mpr ⟨_, hover, rfl⟩)

/-- Whoever was handed over has received a frame. -/
theorem Sound.received_of_kept (hw : w.Sound me) (hk : w.Kept n) :
    ∃ octets, Deed.received octets ∈ w.deedsOf n := by
  obtain ⟨peer, metric, hover⟩ := hk
  obtain ⟨l, c, -, -, hstory⟩ := hw.story hover
  obtain ⟨settings, octets, frame, -, hds⟩ := hstory.of_handedOver hover
  refine ⟨octets, ?_⟩
  rw [hds]
  simp [Handler.servedLog, Handler.askedLog, Handler.readLog]

/-- **An end that does not hand over, while the other end does, has an
excuse.** -/
theorem Carried.parts (hto : Carried w v i j) (hback : Carried v w j i) (hw : w.Sound me)
    (hv : v.Sound me') (hs : w.Silent) (hs' : v.Silent) (hk : v.Kept j) (hn : ¬ w.Kept i)
    {outcome : Outcome} (hr : w.result? i = some outcome) : w.Parts i me' outcome := by
  -- The other end has received this end's frame, so this end has begun.
  obtain ⟨octets, hread⟩ := hv.received_of_kept hk
  obtain ⟨l₀, settings₀, hbegan, -⟩ := hto.announced hw hv hs hread
  obtain ⟨l, c, -, -, hover⟩ := hw.over_of_result hr
  have hserved : ∀ {settings : Settings} {octets : Bytes} {peer : Frame},
      w.deedsOf i ≠ Handler.servedLog l i settings octets peer := by
    intro settings octets peer hds
    refine hn ⟨peer.identity, effectiveMetric l.options.metric peer.metric, ?_⟩
    rw [hds]
    simp [Handler.servedLog]
  generalize hds : w.deedsOf i = ds at *
  cases hover with
  | served => exact absurd rfl hserved
  | collapsed => exact absurd rfl hserved
  | cancelled => exact .of_excused (hds ▸ hbegan) .cancelled
  | rejected hrej =>
      cases hrej with
      | stopped => cases hbegan
      | @broken settings cause hcause =>
          have hb : Deed.began l settings ∈ w.deedsOf i := by simp [hds]
          cases hcause with
          | sendFailed reason => exact .of_excused hb (.sendFailed reason)
          | sendTimeout => exact .of_excused hb .sendTimeout
          | recvFailed reason => exact .of_excused hb (.recvFailed reason)
          | recvTimeout => exact .of_excused hb .recvTimeout
      | @turnedAway settings octets' peer _ hd hrefuses =>
          have hb : Deed.began l settings ∈ w.deedsOf i := by simp [hds, Handler.readLog]
          have hread' : Deed.received octets' ∈ w.deedsOf i := by simp [hds, Handler.readLog]
          -- The frame before it is the other node's own, of the same version.
          obtain ⟨l', -, -, rfl⟩ := hback.announced hv hw hs' hread'
          rw [Frame.decode_encode] at hd
          cases hd
          rcases hrefuses.first_failure with ⟨hversion, -⟩ | ⟨-, hpin, rfl⟩ | ⟨-, -, hallow, rfl⟩
          · exact absurd rfl hversion
          · exact .of_excused hb (.notPinned hpin)
          · exact .of_excused hb (.notAllowed hallow)
      | @duplicate settings octets' peer existing hwel =>
          have hb : Deed.began l settings ∈ w.deedsOf i := by
            simp [hds, Handler.askedLog, Handler.readLog]
          exact .of_excused hb (.duplicate existing)

end World

/-! ## §3. Two nodes. -/

namespace Mesh

variable {σ τ : Type}

/-- **Each of two nodes is a node that runs**: what the mesh does to it is a
list of acts. -/
theorem exists_runs (T : Transport σ) (T' : Transport τ) (cables : Cables) (m : Mesh σ τ)
    (acts : List (MeshAct σ τ)) :
    (∃ as, (m.run T T' cables acts).left = m.left.run T as) ∧
    (∃ as, (m.run T T' cables acts).right = m.right.run T' as) := by
  induction acts generalizing m with
  | nil => exact ⟨⟨[], rfl⟩, ⟨[], rfl⟩⟩
  | cons x rest ih =>
      -- One act of the mesh is one act of each node at most.
      have hone : (∃ as, (m.act T T' cables x).left = m.left.run T as) ∧
          (∃ as, (m.act T T' cables x).right = m.right.run T' as) := by
        cases x with
        | left a =>
            simp only [Mesh.act]
            split
            · exact ⟨⟨[], rfl⟩, ⟨[], rfl⟩⟩
            · exact ⟨⟨[a], rfl⟩, ⟨[], rfl⟩⟩
        | right a =>
            simp only [Mesh.act]
            split
            · exact ⟨⟨[], rfl⟩, ⟨[], rfl⟩⟩
            · exact ⟨⟨[], rfl⟩, ⟨[a], rfl⟩⟩
        | toRight i j count =>
            simp only [Mesh.act]
            split
            · exact ⟨⟨[.remote i (.read _)], rfl⟩, ⟨[.remote j (.write _)], rfl⟩⟩
            · exact ⟨⟨[], rfl⟩, ⟨[], rfl⟩⟩
        | toLeft i j count =>
            simp only [Mesh.act]
            split
            · exact ⟨⟨[.remote i (.write _)], rfl⟩, ⟨[.remote j (.read _)], rfl⟩⟩
            · exact ⟨⟨[], rfl⟩, ⟨[], rfl⟩⟩
      obtain ⟨⟨as, hl⟩, ⟨as', hr⟩⟩ := hone
      obtain ⟨⟨bs, hl'⟩, ⟨bs', hr'⟩⟩ := ih (m.act T T' cables x)
      refine ⟨⟨as ++ bs, ?_⟩, ⟨as' ++ bs', ?_⟩⟩
      · rw [World.run_append, ← hl]
        exact hl'
      · rw [World.run_append, ← hr]
        exact hr'

/-- Both ends of a cable are handed over, once, each with the identity of the
other node and both with the same metric, the larger one of the two links'. -/
def Agrees (m : Mesh σ τ) (a b : Identity) (x : Nat × Nat) : Prop :=
  ∃ l l' settings settings', Deed.began l settings ∈ m.left.deedsOf x.1 ∧
    Deed.began l' settings' ∈ m.right.deedsOf x.2 ∧
    m.left.handOvers x.1 = [(b, max l.options.metric l'.options.metric)] ∧
    m.right.handOvers x.2 = [(a, max l.options.metric l'.options.metric)]

/-- **The two ends of a connection agree.**  In every run of two nodes, with
octets carried in any portions, whatever else happens to either node, and for
both ends of every cable:

  • if both are handed over, they agree on the metric and on who is who,
  • if one is handed over and the other one is not, then whatever the other
    one ends with is one of the excuses. -/
theorem two_party_agreement (T : Transport σ) (T' : Transport τ) (cables : Cables)
    (a b : Identity) (settings settings' : Settings) (engine engine' : Engine) (s : σ) (s' : τ)
    (acts : List (MeshAct σ τ)) :
    let m := (start a b settings settings' engine engine' s s').run T T' cables acts
    ∀ x ∈ cables.pairs,
      (m.left.Kept x.1 → m.right.Kept x.2 → m.Agrees a b x) ∧
      (m.right.Kept x.2 → ¬ m.left.Kept x.1 → ∀ outcome,
        m.left.result? x.1 = some outcome → m.left.Parts x.1 b outcome) ∧
      (m.left.Kept x.1 → ¬ m.right.Kept x.2 → ∀ outcome,
        m.right.result? x.2 = some outcome → m.right.Parts x.2 a outcome) := by
  intro m x hx
  have hm : m.Sound a b cables := (start_sound a b _ _ _ _ _ _).run T T' acts
  obtain ⟨⟨as, hleft⟩, ⟨as', hright⟩⟩ :=
    exists_runs T T' cables (start a b settings settings' engine engine' s s') acts
  have hs : m.left.Silent := hleft ▸ World.silent_run T a settings engine s as
  have hs' : m.right.Silent := hright ▸ World.silent_run T' b settings' engine' s' as'
  have hto := hm.toRight x.1 x.2 hx
  have hback := hm.toLeft x.1 x.2 hx
  refine ⟨?_, ?_, ?_⟩
  · intro hk hk'
    obtain ⟨l, l', began, began', hb, hb', hover⟩ := hback.handOvers hm.left hm.right hs' hk
    obtain ⟨l₁', l₁, began₁', began₁, hb₁', hb₁, hover'⟩ :=
      hto.handOvers hm.right hm.left hs hk'
    obtain ⟨rfl, -⟩ := hm.left.began_unique hb hb₁
    obtain ⟨rfl, -⟩ := hm.right.began_unique hb' hb₁'
    rw [metric_comm] at hover'
    exact ⟨l, l', began, began', hb, hb', hover, hover'⟩
  · intro hk' hk outcome hr
    exact hto.parts hback hm.left hm.right hs hs' hk' hk hr
  · intro hk hk' outcome hr
    exact hback.parts hto hm.right hm.left hs' hs hk hk' hr

/-- Connection 0 is made by the left node, with metrics 3 and 5; its octets
arrive in two pieces.  On connection 1, the left node wants to meet somebody
else. -/
def introductions : List (MeshAct Script Script) :=
  [.left (.make .tcp "x" "a" "b" 1024 {}), .left (.make .tcp "y" "c" "d" 1024 {}),
    .right (.make .tcp "x" "b" "a" 1024 {}), .right (.make .tcp "y" "d" "c" 1024 {}),
    .left (.run 0 false false { metric := 3 }),
    .left (.run 1 false false { pinned := [.replicate 0xcc] }),
    .right (.run 0 true false { metric := 5 }), .right (.accept 1 false)] ++
  leftMoves 0 4 ++ leftMoves 1 4 ++ rightMoves 0 4 ++ rightMoves 1 4 ++
  [.toRight 0 0 20] ++ rightMoves 0 1 ++ [.toRight 0 0 20, .toLeft 0 0 35] ++
  [.toRight 1 1 35, .toLeft 1 1 35] ++
  leftMoves 0 5 ++ rightMoves 0 5 ++ leftMoves 1 5 ++ rightMoves 1 5

/-- Both ends of connection 0 are handed over.  Connection 1 is handed over at
the right alone; the left end parts because of its pinned keys. -/
theorem two_party_agreement_introductions :
    ((after introductions).left.Kept 0 ∧ (after introductions).right.Kept 0 ∧
      (after introductions).Agrees (.replicate 0xaa) (.replicate 0xbb) (0, 0)) ∧
    (after introductions).right.Kept 1 ∧ ¬ (after introductions).left.Kept 1 ∧
    (after introductions).left.Parts 1 (.replicate 0xbb) (.failed (.pinnedKeyMismatch "y")) := by
  have hl : (after introductions).left.Kept 0 := World.kept_of_handOvers (by decide +kernel)
  have hr : (after introductions).right.Kept 0 := World.kept_of_handOvers (by decide +kernel)
  have hr' : (after introductions).right.Kept 1 := World.kept_of_handOvers (by decide +kernel)
  have hl' : ¬ (after introductions).left.Kept 1 :=
    fun hk => World.handOvers_of_kept hk (by decide +kernel)
  have hresult : (after introductions).left.result? 1 =
      some (.failed (.pinnedKeyMismatch "y")) := by decide +kernel
  have h := two_party_agreement Script.transport Script.transport twoCables (.replicate 0xaa)
    (.replicate 0xbb) {} {} .collect .collect {} {} introductions
  exact ⟨⟨hl, hr, (h (0, 0) (by decide)).1 hl hr⟩, hr', hl',
    (h (1, 1) (by decide)).2.1 hr' hl' _ hresult⟩

end Mesh

end LinkLayer

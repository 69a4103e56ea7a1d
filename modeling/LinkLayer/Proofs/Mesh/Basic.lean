/-
  LinkLayer.Proofs.Mesh.Basic
  ───────────────────────────
  **TWO NODES AND THE CABLES BETWEEN THEM.**

  A mesh is two worlds.  A cable joins a connection of the left one to a
  connection of the right one: the remote end of each is the end that the
  other node has.  On a cable, octets are carried in any portions and at any
  time, in both directions; otherwise the two nodes move as they like.  Cables
  can break.

    • `Mesh.Sound.run` — what arrives at one end of a cable is a beginning of
      what the other end sent,
    • `World.Carried.key` — so a link over a cable asks for a key with the
      identity of the node at the other end.
-/
import LinkLayer.Proofs.Link.Frame
import LinkLayer.Proofs.Registry.Precedence
import LinkLayer.Proofs.World.Flow

namespace LinkLayer

/-! ## §1. One direction of a cable. -/

namespace World

variable {σ τ : Type} {T : Transport σ} {T' : Transport τ} {me me' : Identity}
  {w w₁ : World σ} {w' w₁' : World τ} {i j : Nat}

/-- How many of some octets the remote end of a connection could write now. -/
def accepts (w : World σ) (n : Nat) (octets : Bytes) : Nat :=
  ((w.wire? n).bind (·.remoteWrite octets)).elim 0 (·.1)

/-- What was sent on one connection has arrived at the other, or is on its
way. -/
def Carried (w : World σ) (w' : World τ) (i j : Nat) : Prop :=
  w'.arrivedAt j ++ w.queuedAt i = w.sentAt i

/-- Nothing is lost while octets flow at both ends. -/
theorem Carried.flows (hc : Carried w w' i j) (hw : Flows w w₁ i) (hw' : Flows w' w₁' j) :
    Carried w₁ w₁' i j := by
  obtain ⟨bs, hsent, hqueued⟩ := hw.sent
  unfold Carried at *
  rw [hw'.arrived, hqueued, hsent, ← hc, List.append_assoc]

/-- What a remote end does to a wire. -/
theorem wire?_remote (T : Transport σ) (w : World σ) (n : Nat) (what : RemoteAct) :
    (w.act T (.remote n what)).wire? n = (w.wire? n).map what.apply :=
  (wire?_onWire w n n what.apply).trans (if_pos rfl)

theorem read_effect (T : Transport σ) (w : World σ) (n count : Nat) :
    (w.act T (.remote n (.read count))).queuedAt n = (w.queuedAt n).drop count ∧
    (w.act T (.remote n (.read count))).sentAt n = w.sentAt n ∧
    (w.act T (.remote n (.read count))).arrivedAt n = w.arrivedAt n := by
  unfold queuedAt sentAt arrivedAt
  rw [wire?_remote]
  cases w.wire? n with
  | none => exact ⟨List.drop_nil.symm, rfl, rfl⟩
  | some wire => exact ⟨rfl, rfl, rfl⟩

theorem write_effect (T : Transport σ) (w : World σ) (n : Nat) (octets : Bytes) :
    (w.act T (.remote n (.write octets))).arrivedAt n =
      w.arrivedAt n ++ octets.take (w.accepts n octets) ∧
    w.accepts n octets ≤ octets.length ∧
    (w.act T (.remote n (.write octets))).queuedAt n = w.queuedAt n ∧
    (w.act T (.remote n (.write octets))).sentAt n = w.sentAt n := by
  unfold queuedAt sentAt arrivedAt accepts
  rw [wire?_remote]
  cases w.wire? n with
  | none => simp
  | some wire =>
      by_cases hclosed : wire.inbound.closed = true
      · simp [RemoteAct.apply, Wire.remoteWrite, hclosed]
      · -- The pipe takes as many octets as it has room for.
        have hwrite : wire.remoteWrite octets = some (min octets.length wire.inbound.room,
            { wire with
              inbound := wire.inbound.push
                (octets.take (min octets.length wire.inbound.room)) }) := by
          rw [Wire.remoteWrite, if_neg hclosed]
        refine ⟨?_, ?_, ?_, ?_⟩
        · simp [RemoteAct.apply, hwrite, Wire.arrived, Pipe.push]
        · simp only [Option.bind_some, hwrite, Option.elim_some]
          exact Nat.min_le_left _ _
        · simp [RemoteAct.apply, hwrite]
        · simp [RemoteAct.apply, hwrite]

/-- **What one end reads and the other end writes is not lost.** -/
theorem Carried.carry (hc : Carried w w' i j) (count : Nat) :
    Carried
      (w.act T (.remote i (.read (w'.accepts j ((w.queuedAt i).take count)))))
      (w'.act T' (.remote j (.write ((w.queuedAt i).take count)))) i j := by
  obtain ⟨hqueued, hsent, -⟩ :=
    read_effect T w i (w'.accepts j ((w.queuedAt i).take count))
  obtain ⟨harrived, hle, -, -⟩ := write_effect T' w' j ((w.queuedAt i).take count)
  have hcount : w'.accepts j ((w.queuedAt i).take count) ≤ count := by
    rw [List.length_take] at hle
    omega
  unfold Carried at *
  rw [harrived, hqueued, hsent, List.take_take, Nat.min_eq_left hcount, List.append_assoc,
    List.take_append_drop]
  exact hc

/-- The other direction of the cable is not touched. -/
theorem Carried.carry_back (hc : Carried w' w j i) (count : Nat) (octets : Bytes) :
    Carried (w'.act T' (.remote j (.write octets))) (w.act T (.remote i (.read count))) j i := by
  obtain ⟨-, -, harrived⟩ := read_effect T w i count
  obtain ⟨-, -, hqueued, hsent⟩ := write_effect T' w' j octets
  unfold Carried at *
  rw [harrived, hqueued, hsent]
  exact hc

/-- An act lets octets flow where the remote end does nothing. -/
theorem flows_act (T : Transport σ) (hw : w.Sound me) {a : Act σ} {n : Nat}
    (hn : a.fed? ≠ some n) : Flows w (w.act T a) n :=
  (act_change T hw a).flows hw hn

/-- **A portion that is carried over one cable leaves all cables in order.** -/
theorem carried_all {P : Nat → Nat → Prop} (T : Transport σ) (T' : Transport τ)
    (hw : w.Sound me) (hw' : w'.Sound me')
    (hP : ∀ i j i' j', P i j → P i' j' → (i = i' ↔ j = j'))
    (hto : ∀ i j, P i j → Carried w w' i j) (hback : ∀ i j, P i j → Carried w' w j i)
    (hij : P i j) (count : Nat) :
    let octets := (w.queuedAt i).take count
    let w₁ := w.act T (.remote i (.read (w'.accepts j octets)))
    let w₁' := w'.act T' (.remote j (.write octets))
    (∀ i' j', P i' j' → Carried w₁ w₁' i' j') ∧ (∀ i' j', P i' j' → Carried w₁' w₁ j' i') := by
  intro octets w₁ w₁'
  -- On another cable, both remote ends do nothing.
  have hother : ∀ i' j', P i' j' → i ≠ i' → Flows w w₁ i' ∧ Flows w' w₁' j' := by
    intro i' j' hij' hne
    have hne' : j ≠ j' := fun hj => hne ((hP i j i' j' hij hij').mpr hj)
    exact ⟨flows_act T hw fun h => hne (Option.some.inj h),
      flows_act T' hw' fun h => hne' (Option.some.inj h)⟩
  constructor
  · intro i' j' hij'
    by_cases hi : i = i'
    · have hj := (hP i j i' j' hij hij').mp hi
      subst hi hj
      exact (hto i j hij).carry count
    · obtain ⟨hf, hf'⟩ := hother i' j' hij' hi
      exact (hto i' j' hij').flows hf hf'
  · intro i' j' hij'
    by_cases hi : i = i'
    · have hj := (hP i j i' j' hij hij').mp hi
      subst hi hj
      exact (hback i j hij).carry_back _ _
    · obtain ⟨hf, hf'⟩ := hother i' j' hij' hi
      exact (hback i' j' hij').flows hf' hf

/-- What a link received over a cable is what the other end sent first. -/
theorem Carried.received (hc : Carried w w' i j) (hw' : w'.Sound me') {octets : Bytes}
    (ho : Deed.received octets ∈ w'.deedsOf j) :
    octets.length = frameLength ∧ octets <+: w.sentAt i ∧ w.sentAt i ≠ [] := by
  obtain ⟨hlen, harrived⟩ := hw'.received ho
  have hpre : octets <+: w.sentAt i := harrived.trans ⟨_, hc⟩
  refine ⟨hlen, hpre, ?_⟩
  intro hnil
  rw [hnil, List.prefix_nil] at hpre
  rw [hpre] at hlen
  simp [frameLength] at hlen

/-- **A frame that was received over a cable is one that the other node
sends.** -/
theorem Carried.identity (hc : Carried w w' i j) (hw : w.Sound me) (hw' : w'.Sound me')
    {octets : Bytes} (ho : Deed.received octets ∈ w'.deedsOf j) {frame : Frame}
    (hd : Frame.decode octets = .ok frame) : frame.identity = me := by
  obtain ⟨hlen, hpre, hne⟩ := hc.received hw' ho
  obtain ⟨l, hstamped⟩ := hw.stamped hne
  rw [Frame.eq_encode_of_prefix hlen hpre hstamped, Frame.decode_encode] at hd
  cases hd
  rfl

/-- The key for which a link over a cable asks. -/
theorem Carried.key (hc : Carried w w' i j) (hw : w.Sound me) (hw' : w'.Sound me')
    {entry : Handle} {holder : Option Handle} (ha : Deed.asked entry holder ∈ w'.deedsOf j) :
    ∃ c, w'.connection j = some c ∧ entry.key = ⟨me, c.kind, c.source, c.remote⟩ := by
  obtain ⟨l, c, hcon, hlabels, hstory⟩ := hw'.story ha
  obtain ⟨settings, octets, frame, hwel, rfl, hpre⟩ := hstory.of_asked ha
  have hreceived : Deed.received octets ∈ w'.deedsOf j :=
    hpre.subset (by simp [Handler.askedLog, Handler.readLog])
  have hid := hc.identity hw hw' hreceived hwel.decoded
  refine ⟨c, hcon, ?_⟩
  show (⟨frame.identity, l.kind, l.source, l.remote⟩ : LinkKey) = _
  rw [hid, hlabels.kind, hlabels.source, hlabels.remote]

end World

/-! ## §2. Meshes. -/

/-- Which connections of two nodes are joined.  A connection has one cable at
most. -/
structure Cables where
  pairs : List (Nat × Nat)
  lefts : (pairs.map (·.1)).Nodup
  rights : (pairs.map (·.2)).Nodup

/-- Two nodes. -/
structure Mesh (σ τ : Type) where
  left : World σ
  right : World τ

/-- What can happen to two nodes: something to one of them, or a portion of at
most so many octets is carried over a cable. -/
inductive MeshAct (σ τ : Type) where
  | left (a : Act σ)
  | right (a : Act τ)
  | toRight (i j count : Nat)
  | toLeft (i j count : Nat)

namespace Mesh

variable {σ τ : Type}

/-- Two nodes on which nothing has happened. -/
def start (a b : Identity) (settings settings' : Settings) (engine engine' : Engine) (s : σ)
    (s' : τ) : Mesh σ τ where
  left := .start a settings engine s
  right := .start b settings' engine' s'

/-- Let something happen.  Nobody but the other node reads and writes at the
remote end of a connection with a cable. -/
def act (T : Transport σ) (T' : Transport τ) (cables : Cables) (m : Mesh σ τ) :
    MeshAct σ τ → Mesh σ τ
  | .left a =>
      if a.fed?.any (· ∈ cables.pairs.map (·.1)) then m
      else { m with left := m.left.act T a }
  | .right a =>
      if a.fed?.any (· ∈ cables.pairs.map (·.2)) then m
      else { m with right := m.right.act T' a }
  | .toRight i j count =>
      if (i, j) ∈ cables.pairs then
        let octets := (m.left.queuedAt i).take count
        { left := m.left.act T (.remote i (.read (m.right.accepts j octets)))
          right := m.right.act T' (.remote j (.write octets)) }
      else m
  | .toLeft i j count =>
      if (i, j) ∈ cables.pairs then
        let octets := (m.right.queuedAt j).take count
        { left := m.left.act T (.remote i (.write octets))
          right := m.right.act T' (.remote j (.read (m.left.accepts i octets))) }
      else m

/-- Let several things happen, one after the other. -/
def run (T : Transport σ) (T' : Transport τ) (cables : Cables) (m : Mesh σ τ)
    (acts : List (MeshAct σ τ)) : Mesh σ τ :=
  acts.foldl (act T T' cables) m

/-- What holds of two nodes at any time. -/
structure Sound (a b : Identity) (cables : Cables) (m : Mesh σ τ) : Prop where
  left : m.left.Sound a
  right : m.right.Sound b
  leftHolders : World.Attributed m.left.deeds
  rightHolders : World.Attributed m.right.deeds
  toRight : ∀ i j, (i, j) ∈ cables.pairs → World.Carried m.left m.right i j
  toLeft : ∀ i j, (i, j) ∈ cables.pairs → World.Carried m.right m.left j i

/-! ## §3. Runs of a mesh. -/

variable {T : Transport σ} {T' : Transport τ} {cables : Cables} {a b : Identity}
  {m : Mesh σ τ}

/-- Two cables that share an end are one. -/
theorem pair_eq {i j i' j' : Nat} (h : (i, j) ∈ cables.pairs) (h' : (i', j') ∈ cables.pairs) :
    i = i' ↔ j = j' := by
  constructor
  · intro hi
    exact congrArg Prod.snd (List.inj_on_of_nodup_map cables.lefts h h' hi)
  · intro hj
    exact congrArg Prod.fst (List.inj_on_of_nodup_map cables.rights h h' hj)

theorem start_sound (a b : Identity) (settings settings' : Settings) (engine engine' : Engine)
    (s : σ) (s' : τ) :
    (start a b settings settings' engine engine' s s').Sound a b cables where
  left := World.sound_start _ _ _ _
  right := World.sound_start _ _ _ _
  leftHolders := by
    intro pre n entry holder post heq
    cases pre <;> cases heq
  rightHolders := by
    intro pre n entry holder post heq
    cases pre <;> cases heq
  toRight := fun _ _ _ => rfl
  toLeft := fun _ _ _ => rfl

theorem attributed_act (T : Transport σ) {w : World σ} (hw : w.Sound a)
    (hh : World.Attributed w.deeds) (x : Act σ) : World.Attributed (w.act T x).deeds :=
  World.attributed_run T hw hh [x]

theorem sound_act (T : Transport σ) {w : World σ} (hw : w.Sound a) (x : Act σ) :
    (w.act T x).Sound a :=
  (World.act_change T hw x).sound hw

/-- Something happens to the left node. -/
theorem Sound.actLeft (T : Transport σ) (hm : m.Sound a b cables) {x : Act σ}
    (hx : ∀ i j, (i, j) ∈ cables.pairs → x.fed? ≠ some i) :
    Sound a b cables { m with left := m.left.act T x } where
  left := sound_act T hm.left x
  right := hm.right
  leftHolders := attributed_act T hm.left hm.leftHolders x
  rightHolders := hm.rightHolders
  toRight := fun i j hij =>
    (hm.toRight i j hij).flows (World.flows_act T hm.left (hx i j hij)) (.of_same rfl)
  toLeft := fun i j hij =>
    (hm.toLeft i j hij).flows (.of_same rfl) (World.flows_act T hm.left (hx i j hij))

/-- Something happens to the right node. -/
theorem Sound.actRight (T' : Transport τ) (hm : m.Sound a b cables) {x : Act τ}
    (hx : ∀ i j, (i, j) ∈ cables.pairs → x.fed? ≠ some j) :
    Sound a b cables { m with right := m.right.act T' x } where
  left := hm.left
  right := sound_act T' hm.right x
  leftHolders := hm.leftHolders
  rightHolders := attributed_act T' hm.right hm.rightHolders x
  toRight := fun i j hij =>
    (hm.toRight i j hij).flows (.of_same rfl) (World.flows_act T' hm.right (hx i j hij))
  toLeft := fun i j hij =>
    (hm.toLeft i j hij).flows (World.flows_act T' hm.right (hx i j hij)) (.of_same rfl)

/-- **Whatever happens, two nodes stay sound.** -/
theorem Sound.act (T : Transport σ) (T' : Transport τ) (hm : m.Sound a b cables)
    (x : MeshAct σ τ) : (m.act T T' cables x).Sound a b cables := by
  cases x with
  | left x =>
      show Sound a b cables (if x.fed?.any (· ∈ cables.pairs.map (·.1)) then m
        else { m with left := m.left.act T x })
      split
      · exact hm
      · next hfed =>
          refine hm.actLeft T ?_
          intro i j hij hx
          rw [hx] at hfed
          exact hfed (by simpa using ⟨j, hij⟩)
  | right x =>
      show Sound a b cables (if x.fed?.any (· ∈ cables.pairs.map (·.2)) then m
        else { m with right := m.right.act T' x })
      split
      · exact hm
      · next hfed =>
          refine hm.actRight T' ?_
          intro i j hij hx
          rw [hx] at hfed
          exact hfed (by simpa using ⟨i, hij⟩)
  | toRight i j count =>
      show Sound a b cables (if (i, j) ∈ cables.pairs then _ else m)
      split
      · next hij =>
          obtain ⟨hto, hback⟩ := World.carried_all (P := fun i j => (i, j) ∈ cables.pairs)
            T T' hm.left hm.right (fun _ _ _ _ => pair_eq) hm.toRight hm.toLeft hij count
          exact {
            left := sound_act T hm.left (.remote i _)
            right := sound_act T' hm.right (.remote j _)
            leftHolders := attributed_act T hm.left hm.leftHolders (.remote i _)
            rightHolders := attributed_act T' hm.right hm.rightHolders (.remote j _)
            toRight := hto
            toLeft := hback }
      · exact hm
  | toLeft i j count =>
      show Sound a b cables (if (i, j) ∈ cables.pairs then _ else m)
      split
      · next hij =>
          obtain ⟨hto, hback⟩ := World.carried_all (P := fun j i => (i, j) ∈ cables.pairs)
            T' T hm.right hm.left (fun _ _ _ _ h h' => (pair_eq h h').symm)
            (fun j i => hm.toLeft i j) (fun j i => hm.toRight i j) hij count
          exact {
            left := sound_act T hm.left (.remote i _)
            right := sound_act T' hm.right (.remote j _)
            leftHolders := attributed_act T hm.left hm.leftHolders (.remote i _)
            rightHolders := attributed_act T' hm.right hm.rightHolders (.remote j _)
            toRight := fun i j => hback j i
            toLeft := fun i j => hto j i }
      · exact hm

/-- **After any run, two nodes are sound.** -/
theorem Sound.run (T : Transport σ) (T' : Transport τ) (hm : m.Sound a b cables)
    (acts : List (MeshAct σ τ)) : (m.run T T' cables acts).Sound a b cables := by
  -- One act at a time, from the front.
  induction acts generalizing m with
  | nil => exact hm
  | cons x rest ih => exact ih (hm.act T T' x)

end Mesh

end LinkLayer

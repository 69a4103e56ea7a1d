/-
  LinkLayer.Proofs.Manager.Reconcile
  ──────────────────────────────────
  **WHAT A CONFIGURATION MAKES OF THE LISTENERS.**

  A new configuration ends the listeners that it does not name, and starts
  those that it names and that are not running.  A start can fail, and the
  next one is tried all the same.

    • `Orderly` — each listener has a place and an inlet of its own,
    • `Ends` — what is left when some listeners were ended,
    • `Starts` — what there is when some listeners were started, by what the
      transport answered to each request,
    • `Reconciled` — both together, as the result of a configuration,
    • `reconfigure_reconciled` — **every valid configuration does just that.**
-/
import LinkLayer.Proofs.Manager.Keeping
import LinkLayer.Proofs.Text.Firsts

namespace LinkLayer

/-! ## §1. Configured places, and what a transport answers. -/

/-- A place that is configured twice counts once. -/
theorem LinkConfig.nodup_listen {config : LinkConfig} {settings : Settings}
    (h : config.settings = .ok settings) : settings.listen.Nodup := by
  unfold LinkConfig.settings at h
  repeat' split at h
  all_goals cases h
  exact Text.nodup_firsts _

/-- A transport was asked to listen at a place, and answered. -/
structure Bid where
  spec : ListenSpec
  result : Except TransportError Endpoint

/-- What the transport answered to the request for a listener. -/
def Listener.bid (l : Listener) : Bid := ⟨l.spec, .ok l.bound⟩

/-- The error for which there is no listener. -/
def Bid.error? (b : Bid) : Option LinkError :=
  match b.result with
  | .ok _ => none
  | .error e => some (.transport e)

variable {σ : Type}

/-- What a transport answers if it is asked to listen at one place after the
other. -/
def Transport.bids (T : Transport σ) : List ListenSpec → σ → List Bid
  | [], _ => []
  | spec :: specs, state =>
      ⟨spec, (T.listen spec state).result⟩ :: T.bids specs (T.listen spec state).state

/-- It answers each request. -/
theorem Transport.places_bids (T : Transport σ) (specs : List ListenSpec) (state : σ) :
    (T.bids specs state).map (·.spec) = specs := by
  induction specs generalizing state with
  | nil => rfl
  | cons spec specs ih => rw [Transport.bids, List.map_cons, ih]

namespace Manager

variable {m m' m'' : Manager σ}

/-! ## §2. Listeners in order. -/

/-- The places where the node listens. -/
def places (m : Manager σ) : List ListenSpec := m.listeners.map (·.spec)

/-- Each listener has a place and an inlet of its own, and the next inlet is
nobody's. -/
structure Orderly (m : Manager σ) : Prop where
  places : m.places.Nodup
  inlets : (m.listeners.map (·.inlet)).Nodup
  opened : ∀ l ∈ m.listeners, l.inlet ∈ m.inlets.numbers
  numbers : ∀ j ∈ m.inlets.numbers, j < m.nextInlet

theorem Orderly.eq_of_spec (h : m.Orderly) {l l' : Listener} (hl : l ∈ m.listeners)
    (hl' : l' ∈ m.listeners) (hs : l.spec = l'.spec) : l = l' :=
  List.inj_on_of_nodup_map h.places hl hl' hs

theorem Orderly.eq_of_inlet (h : m.Orderly) {l l' : Listener} (hl : l ∈ m.listeners)
    (hl' : l' ∈ m.listeners) (hs : l.inlet = l'.inlet) : l = l' :=
  List.inj_on_of_nodup_map h.inlets hl hl' hs

/-- Listeners go, inlets stay, and no time passes. -/
structure Settled (m m' : Manager σ) : Prop where
  listeners : m'.listeners.Sublist m.listeners
  numbers : m'.inlets.numbers = m.inlets.numbers
  now : m'.now = m.now

theorem Settled.refl (m : Manager σ) : m.Settled m := ⟨.refl _, rfl, rfl⟩

theorem Settled.trans (h : m.Settled m') (h' : m'.Settled m'') : m.Settled m'' :=
  ⟨h'.listeners.trans h.listeners, h'.numbers.trans h.numbers, h'.now.trans h.now⟩

theorem nextInlet_eq (m : Manager σ) : m.nextInlet = m.inlets.numbers.length := by
  simp [nextInlet, Table.numbers]

theorem Orderly.of_settled (h : m.Orderly) (hs : m.Settled m') : m'.Orderly where
  places := h.places.sublist (hs.listeners.map _)
  inlets := h.inlets.sublist (hs.listeners.map _)
  opened := fun l hl => hs.numbers ▸ h.opened l (hs.listeners.subset hl)
  numbers := by
    rw [nextInlet_eq, hs.numbers, ← nextInlet_eq]
    exact h.numbers

/-- An inlet that is there is replaced. -/
theorem settled_putInlet {j : Nat} {inlet : Inlet} (hj : m.inlets.find? j = some inlet)
    (inlet' : Inlet) : m.Settled { m with inlets := m.inlets.put j inlet' } where
  listeners := .refl _
  numbers := by
    show (Table.putRows j inlet' m.inlets.rows).map (·.1) = _
    rw [Table.numbers_putRows]
    exact if_pos (Table.mem_numbers_of_find? hj)
  now := rfl

theorem settled_closeInlet (m : Manager σ) (j : Nat) : m.Settled (m.closeInlet j) := by
  cases hj : m.inlets.find? j with
  | none =>
      rw [closeInlet_of_none hj]
      exact .refl m
  | some inlet =>
      rw [closeInlet_of_some hj]
      exact ⟨.refl _, (settled_putInlet hj _).numbers, rfl⟩

theorem settled_unlisten (m : Manager σ) (spec : ListenSpec) :
    m.Settled (m.unlisten spec).2 := by
  unfold unlisten
  split
  · exact .refl m
  · -- First the listener is taken out of the table, then its inlet is closed.
    have htable : m.Settled { m with listeners := m.listeners.filter (·.spec ≠ spec) } :=
      ⟨List.filter_sublist, rfl, rfl⟩
    exact htable.trans ((settled_closeInlet _ _).trans ⟨.refl _, rfl, rfl⟩)

theorem settled_unlistenAll (m : Manager σ) (specs : List ListenSpec) :
    m.Settled (m.unlistenAll specs) := by
  unfold unlistenAll
  induction specs generalizing m with
  | nil => exact .refl m
  | cons spec rest ih => exact (settled_unlisten m spec).trans (ih _)

theorem places_addListener (m : Manager σ) (spec : ListenSpec) (bound : Endpoint) :
    (m.addListener spec bound).places = m.places ++ [spec] := List.map_append

theorem numbers_addListener (ho : m.Orderly) (spec : ListenSpec) (bound : Endpoint) :
    (m.addListener spec bound).inlets.numbers = m.inlets.numbers ++ [m.nextInlet] := by
  have hnext : m.nextInlet ∉ m.inlets.numbers := fun hin => Nat.lt_irrefl _ (ho.numbers _ hin)
  exact (Table.numbers_putRows _ _ m.inlets.rows).trans (if_neg hnext)

/-- **A new listener at a new place leaves the listeners in order.** -/
theorem Orderly.addListener (h : m.Orderly) {spec : ListenSpec} (hspec : spec ∉ m.places)
    (bound : Endpoint) : (m.addListener spec bound).Orderly := by
  have hnumbers := numbers_addListener h spec bound
  have hinlets : (m.addListener spec bound).listeners.map (·.inlet) =
      m.listeners.map (·.inlet) ++ [m.nextInlet] := List.map_append
  constructor
  case places =>
    rw [places_addListener, ← List.concat_eq_append]
    exact h.places.concat hspec
  case inlets =>
    rw [hinlets, ← List.concat_eq_append]
    refine h.inlets.concat fun hin => ?_
    -- Whoever is in force has an inlet that is there.
    obtain ⟨l, hl, hj⟩ := List.mem_map.mp hin
    exact Nat.lt_irrefl _ (h.numbers _ (hj ▸ h.opened l hl))
  case opened =>
    intro l hl
    rw [hnumbers, List.mem_append]
    rcases List.mem_append.mp hl with hl | hl
    · exact .inl (h.opened l hl)
    · rw [List.mem_singleton.mp hl]
      exact .inr (List.mem_singleton.mpr rfl)
  case numbers =>
    intro j hj
    rw [nextInlet_eq, hnumbers, List.length_append, ← nextInlet_eq]
    rw [hnumbers, List.mem_append, List.mem_singleton] at hj
    rcases hj with hj | rfl
    · exact Nat.lt_succ_of_lt (h.numbers j hj)
    · exact Nat.lt_succ_self _

theorem listenerAt_eq_none {spec : ListenSpec} : m.listenerAt spec = none ↔ spec ∉ m.places := by
  simp [listenerAt, places]

theorem mem_of_listenerAt {spec : ListenSpec} {l : Listener} (h : m.listenerAt spec = some l) :
    l ∈ m.listeners ∧ l.spec = spec :=
  ⟨List.mem_of_find?_eq_some h, by simpa using List.find?_some h⟩

/-! ## §3. Ending listeners. -/

theorem find?_closeInlet_ne (m : Manager σ) {j k : Nat} (h : k ≠ j) :
    (m.closeInlet j).inlets.find? k = m.inlets.find? k := by
  cases hj : m.inlets.find? j with
  | none => rw [closeInlet_of_none hj]
  | some inlet =>
      rw [closeInlet_of_some hj]
      exact Table.find?_put_ne _ _ h

/-- A closed inlet is served no more. -/
theorem isServed_closeInlet {j : Nat} {inlet : Inlet}
    (h : (m.closeInlet j).inlets.find? j = some inlet) : inlet.isServed = false := by
  cases hj : m.inlets.find? j with
  | none =>
      rw [closeInlet_of_none hj, hj] at h
      cases h
  | some before =>
      rw [closeInlet_of_some hj, Table.find?_put_self] at h
      cases h
      rfl

/-- The listeners at some places were ended, and nothing else was done. -/
structure Ends (m : Manager σ) (gone : List ListenSpec) (m' : Manager σ) : Prop where
  toNode : m'.toNode = m.toNode
  transport : m'.transport = m.transport
  requests : m'.requests = m.requests
  listeners : m'.listeners = m.listeners.filter (·.spec ∉ gone)
  settled : m.Settled m'
  others : ∀ j, (∀ l ∈ m.listeners, l.spec ∈ gone → l.inlet ≠ j) →
    m'.inlets.find? j = m.inlets.find? j
  unserved : ∀ l ∈ m.listeners, l.spec ∈ gone → ∀ inlet,
    m'.inlets.find? l.inlet = some inlet → inlet.isServed = false

theorem Ends.refl (m : Manager σ) : m.Ends [] m where
  toNode := rfl
  transport := rfl
  requests := rfl
  listeners := by simp
  settled := .refl m
  others := fun _ _ => rfl
  unserved := fun _ _ h => absurd h List.not_mem_nil

theorem ends_unlisten (ho : m.Orderly) (spec : ListenSpec) :
    m.Ends [spec] (m.unlisten spec).2 := by
  have hsettled := settled_unlisten m spec
  unfold unlisten at hsettled ⊢
  cases hl : m.listenerAt spec with
  | none =>
      have hnot : ∀ l ∈ m.listeners, l.spec ∉ [spec] := by
        intro l hl' hs
        rw [List.mem_singleton] at hs
        exact listenerAt_eq_none.mp hl (List.mem_map.mpr ⟨l, hl', hs⟩)
      refine ⟨rfl, rfl, rfl, ?_, .refl m, fun _ _ => rfl, fun l hl' hs => absurd hs (hnot l hl')⟩
      exact (List.filter_eq_self.mpr fun l hl' => decide_eq_true (hnot l hl')).symm
  | some listener =>
      obtain ⟨hmem, hspec⟩ := mem_of_listenerAt hl
      rw [hl] at hsettled
      let m₁ : Manager σ := { m with listeners := m.listeners.filter (·.spec ≠ spec) }
      have hsame : (m₁.closeInlet listener.inlet).toNode = m.toNode ∧
          (m₁.closeInlet listener.inlet).transport = m.transport ∧
          (m₁.closeInlet listener.inlet).requests = m.requests ∧
          (m₁.closeInlet listener.inlet).listeners = m₁.listeners := by
        cases hj : m₁.inlets.find? listener.inlet with
        | none => rw [closeInlet_of_none hj]; exact ⟨rfl, rfl, rfl, rfl⟩
        | some inlet => rw [closeInlet_of_some hj]; exact ⟨rfl, rfl, rfl, rfl⟩
      obtain ⟨hnode, htransport, hrequests, hlisteners⟩ := hsame
      refine ⟨hnode, htransport, hrequests, ?_, hsettled, ?_, ?_⟩
      · refine hlisteners.trans (List.filter_congr fun l _ => ?_)
        simp
      · intro j hj
        refine find?_closeInlet_ne m₁ (Ne.symm (hj listener hmem ?_))
        rw [hspec]
        exact List.mem_singleton.mpr rfl
      · intro l hl' hs inlet hinlet
        have heq := ho.eq_of_spec hl' hmem ((List.mem_singleton.mp hs).trans hspec.symm)
        rw [heq] at hinlet
        exact isServed_closeInlet (m := m₁) hinlet

theorem Ends.trans {gone gone' : List ListenSpec} (ho : m.Orderly) (h : m.Ends gone m')
    (h' : m'.Ends gone' m'') : m.Ends (gone ++ gone') m'' where
  toNode := h'.toNode.trans h.toNode
  transport := h'.transport.trans h.transport
  requests := h'.requests.trans h.requests
  listeners := by
    rw [h'.listeners, h.listeners, List.filter_filter]
    refine List.filter_congr fun l _ => ?_
    simp [Bool.and_comm]
  settled := h.settled.trans h'.settled
  others := by
    intro j hj
    rw [h'.others j, h.others j]
    · exact fun l hl hs => hj l hl (List.mem_append_left _ hs)
    · exact fun l hl hs => hj l (h.settled.listeners.subset hl) (List.mem_append_right _ hs)
  unserved := by
    intro l hl hs inlet hinlet
    by_cases hgone : l.spec ∈ gone
    · -- An inlet that was closed at first is nobody's afterwards.
      refine h.unserved l hl hgone inlet ?_
      rw [← hinlet]
      refine (h'.others l.inlet ?_).symm
      intro l' hl' hs' heq
      have hsame := ho.eq_of_inlet (h.settled.listeners.subset hl') hl heq
      rw [h.listeners, hsame, List.mem_filter] at hl'
      exact of_decide_eq_true hl'.2 hgone
    · have hl' : l ∈ m'.listeners := by
        rw [h.listeners, List.mem_filter]
        exact ⟨hl, decide_eq_true hgone⟩
      exact h'.unserved l hl' ((List.mem_append.mp hs).resolve_left hgone) inlet hinlet

/-- **Several listeners are ended one after the other.** -/
theorem ends_unlistenAll (gone : List ListenSpec) (ho : m.Orderly) :
    m.Ends gone (m.unlistenAll gone) := by
  induction gone generalizing m with
  | nil => exact .refl m
  | cons spec rest ih =>
      have hone := ends_unlisten ho spec
      exact hone.trans ho (ih (ho.of_settled hone.settled))

/-! ## §4. Starting listeners. -/

/-- The transport was asked to listen at some places, one after the other.
Where it did, there is a listener with an inlet of its own, which is empty, fed
and served; nothing else was done. -/
structure Starts (T : Transport σ) (m : Manager σ) (specs : List ListenSpec)
    (answer : List LinkError × Manager σ) : Prop where
  errors : answer.1 = (T.bids specs m.transport).filterMap Bid.error?
  toNode : answer.2.toNode = m.toNode
  requests : answer.2.requests = m.requests ++ specs.map .listen
  listeners : ∃ new, answer.2.listeners = m.listeners ++ new ∧
    new.map Listener.bid = (T.bids specs m.transport).filter (·.error?.isNone) ∧
    ∀ l ∈ new, answer.2.inlets.find? l.inlet = some { spec := l.spec }
  others : ∀ j ∈ m.inlets.numbers, answer.2.inlets.find? j = m.inlets.find? j
  orderly : answer.2.Orderly

/-- What is asked of the transport changes no listener. -/
theorem Orderly.asked {α : Type} (ho : m.Orderly) (request : Request) (reply : Reply σ α) :
    (m.asked request reply).Orderly := ho.of_settled ⟨.refl _, rfl, rfl⟩

/-- The first listener was started, and then the others were. -/
theorem Starts.of_ok {T : Transport σ} {spec : ListenSpec} {bound : Endpoint}
    {specs : List ListenSpec} (ho : m.Orderly) (hs : m.isStopped = false)
    (hspec : spec ∉ m.places) (hr : (T.listen spec m.transport).result = .ok bound)
    (h : Starts T ((m.asked (.listen spec) (T.listen spec m.transport)).addListener spec bound)
      specs (((m.asked (.listen spec) (T.listen spec m.transport)).addListener spec
        bound).listenAll T specs)) :
    m.Starts T (spec :: specs) (m.listenAll T (spec :: specs)) := by
  have hl : m.listen T spec = (.ok bound,
      (m.asked (.listen spec) (T.listen spec m.transport)).addListener spec bound) := by
    simp [listen, hs, listenerAt_eq_none.mpr hspec, hr]
  obtain ⟨herrors, hnode, hrequests, ⟨new, hlisteners, hbids, hready⟩, hothers, horderly⟩ := h
  have hnumbers := numbers_addListener (ho.asked (.listen spec) (T.listen spec m.transport)) spec
    bound
  rw [listenAll, hl]
  refine ⟨?_, hnode, ?_, ⟨⟨spec, bound, m.nextInlet⟩ :: new, ?_, ?_, ?_⟩, ?_, horderly⟩
  · rw [herrors, Transport.bids, hr]
    rfl
  · rw [hrequests]
    exact List.append_assoc _ _ _
  · rw [hlisteners]
    exact List.append_assoc _ _ _
  · rw [List.map_cons, hbids, Transport.bids, hr]
    rfl
  · -- The first inlet is there from now on, and the later ones are ready anyway.
    have hopen := hothers m.nextInlet
      (hnumbers ▸ List.mem_append_right _ (List.mem_singleton.mpr rfl))
    exact List.forall_mem_cons.mpr ⟨hopen.trans (Table.find?_put_self _ _ _), hready⟩
  · intro j hj
    -- The new inlet has a number that is nobody's.
    have hne : j ≠ m.nextInlet := Nat.ne_of_lt (ho.numbers j hj)
    exact (hothers j (hnumbers ▸ List.mem_append_left _ hj)).trans (Table.find?_put_ne _ _ hne)

/-- The first listener was refused, and then the others were started. -/
theorem Starts.of_error {T : Transport σ} {spec : ListenSpec} {e : TransportError}
    {specs : List ListenSpec} (hs : m.isStopped = false) (hspec : spec ∉ m.places)
    (hr : (T.listen spec m.transport).result = .error e)
    (h : Starts T ((m.asked (.listen spec) (T.listen spec m.transport)).report
        [.listenerFailed spec (.transport e)]) specs
      (((m.asked (.listen spec) (T.listen spec m.transport)).report
        [.listenerFailed spec (.transport e)]).listenAll T specs)) :
    m.Starts T (spec :: specs) (m.listenAll T (spec :: specs)) := by
  have hl : m.listen T spec = (.error (.transport e),
      m.asked (.listen spec) (T.listen spec m.transport)) := by
    simp [listen, hs, listenerAt_eq_none.mpr hspec, hr]
  obtain ⟨herrors, hnode, hrequests, ⟨new, hlisteners, hbids, hready⟩, hothers, horderly⟩ := h
  rw [listenAll, hl]
  refine ⟨?_, hnode, ?_, ⟨new, hlisteners, ?_, hready⟩, hothers, horderly⟩
  · rw [Transport.bids, hr]
    exact congrArg (_ :: ·) herrors
  · rw [hrequests]
    exact List.append_assoc _ _ _
  · rw [hbids, Transport.bids, hr]
    rfl

/-- **Several listeners are started one after the other**, whichever of them
fail. -/
theorem starts_listenAll (T : Transport σ) (specs : List ListenSpec) (ho : m.Orderly)
    (hs : m.isStopped = false) (hspecs : specs.Nodup) (hnew : ∀ spec ∈ specs, spec ∉ m.places) :
    m.Starts T specs (m.listenAll T specs) := by
  induction specs generalizing m with
  | nil =>
      have hnone : ∀ l ∈ ([] : List Listener),
          (m.listenAll T []).2.inlets.find? l.inlet = some { spec := l.spec } :=
        fun _ hl => absurd hl List.not_mem_nil
      exact ⟨rfl, rfl, by simp [listenAll], ⟨[], by simp [listenAll], rfl, hnone⟩,
        fun _ _ => rfl, ho⟩
  | cons spec specs ih =>
      obtain ⟨hnotin, hrest⟩ := List.nodup_cons.mp hspecs
      have hspec := hnew spec List.mem_cons_self
      have hasked := ho.asked (.listen spec) (T.listen spec m.transport)
      have hnew' : ∀ spec' ∈ specs, spec' ∉ m.places :=
        fun spec' hin => hnew spec' (List.mem_cons_of_mem _ hin)
      cases hr : (T.listen spec m.transport).result with
      | ok bound =>
          refine .of_ok ho hs hspec hr (ih (hasked.addListener hspec bound) hs hrest ?_)
          intro spec' hin hplace
          -- The others are still to be started.
          rw [places_addListener, List.mem_append, List.mem_singleton] at hplace
          rcases hplace with hold | rfl
          · exact hnew' spec' hin hold
          · exact hnotin hin
      | error e =>
          exact .of_error hs hspec hr
            (ih (hasked.of_settled ⟨.refl _, rfl, rfl⟩) hs hrest hnew')

/-! ## §5. A new configuration. -/

/-- The places that are configured and where the node does not listen. -/
def missing (m : Manager σ) (settings : Settings) : List ListenSpec :=
  settings.listen.filter (· ∉ m.places)

/-- **What a valid configuration does.**  The places where the node does not
listen yet are asked for, in their order, and with the answers go the
listeners, the errors and the result. -/
structure Reconciled (T : Transport σ) (m : Manager σ) (settings : Settings)
    (answer : Except LinkError Unit × Manager σ) : Prop where
  /-- The settings are replaced, and all else that the links share stays:
  the registry with its signals, the engine, the clock. -/
  toNode : answer.2.toNode = { m.toNode with settings }
  tasks : answer.2.tasks = m.tasks
  /-- Each missing place is asked for once, in the order of the configuration,
  and no other one. -/
  once : settings.listen.Nodup
  requests : answer.2.requests = m.requests ++ (m.missing settings).map .listen
  /-- The node listens where it is to listen, but for what failed. -/
  running : ∀ spec, spec ∈ answer.2.places ↔
    spec ∈ settings.listen ∧
      ∀ b ∈ T.bids (m.missing settings) m.transport, b.spec = spec → b.error? = none
  /-- Whatever listener is still wanted stays as it is, and so does its
  inlet. -/
  kept : ∀ l ∈ m.listeners, l.spec ∈ settings.listen →
    l ∈ answer.2.listeners ∧ answer.2.inlets.find? l.inlet = m.inlets.find? l.inlet
  /-- All other ones are new, and bound as the transport said; the inlet of a new
one is empty, fed and served. -/
  new : ∀ l ∈ answer.2.listeners, l ∈ m.listeners ∨
    l.bid ∈ T.bids (m.missing settings) m.transport ∧
      answer.2.inlets.find? l.inlet = some { spec := l.spec }
  /-- Whatever is not wanted any more is served no more. -/
  ended : ∀ l ∈ m.listeners, l.spec ∉ settings.listen → ∀ inlet,
    answer.2.inlets.find? l.inlet = some inlet → inlet.isServed = false
  /-- The result is the first error, if there is one. -/
  result : answer.1 =
    match (T.bids (m.missing settings) m.transport).findSome? Bid.error? with
    | none => .ok ()
    | some e => .error e
  orderly : answer.2.Orderly

theorem Starts.mem_places {T : Transport σ} {specs : List ListenSpec}
    {answer : List LinkError × Manager σ} (h : m.Starts T specs answer) (hspecs : specs.Nodup)
    (spec : ListenSpec) :
    spec ∈ answer.2.places ↔ spec ∈ m.places ∨
      spec ∈ specs ∧ ∀ b ∈ T.bids specs m.transport, b.spec = spec → b.error? = none := by
  obtain ⟨new, hlisteners, hbids, -⟩ := h.listeners
  have hplaces : answer.2.places = m.places ++ (new.map Listener.bid).map (·.spec) := by
    rw [places, hlisteners, List.map_append, List.map_map]
    rfl
  rw [hplaces, hbids, List.mem_append]
  refine or_congr_right ?_
  -- One place, one request: the answer to it decides.
  have hasked := T.places_bids specs m.transport
  simp only [List.mem_map, List.mem_filter, Option.isNone_iff_eq_none]
  constructor
  · rintro ⟨b, ⟨hb, hnone⟩, rfl⟩
    refine ⟨hasked ▸ List.mem_map.mpr ⟨b, hb, rfl⟩, fun b' hb' heq => ?_⟩
    rw [List.inj_on_of_nodup_map (hasked.symm ▸ hspecs) hb' hb heq]
    exact hnone
  · rintro ⟨hin, hall⟩
    rw [← hasked] at hin
    obtain ⟨b, hb, heq⟩ := List.mem_map.mp hin
    exact ⟨b, ⟨hb, hall b hb heq⟩, heq⟩

/-- The places that are not wanted any more. -/
def unwanted (m : Manager σ) (settings : Settings) : List ListenSpec :=
  m.places.filter (· ∉ settings.listen)

theorem Ends.mem_listeners {settings : Settings} (h : m.Ends (m.unwanted settings) m')
    (l : Listener) : l ∈ m'.listeners ↔ l ∈ m.listeners ∧ l.spec ∈ settings.listen := by
  rw [h.listeners, List.mem_filter, decide_eq_true_eq]
  refine and_congr_right fun hl => ?_
  have hplace : l.spec ∈ m.places := List.mem_map.mpr ⟨l, hl, rfl⟩
  simp [unwanted, hplace]

theorem Ends.mem_places {settings : Settings} (h : m.Ends (m.unwanted settings) m')
    (spec : ListenSpec) : spec ∈ m'.places ↔ spec ∈ m.places ∧ spec ∈ settings.listen := by
  simp only [places, List.mem_map, h.mem_listeners]
  constructor
  · rintro ⟨l, ⟨hl, hw⟩, rfl⟩
    exact ⟨⟨l, hl, rfl⟩, hw⟩
  · rintro ⟨⟨l, hl, rfl⟩, hw⟩
    exact ⟨l, ⟨hl, hw⟩, rfl⟩

/-- A configuration ends listeners, starts others, and reports the first
error. -/
theorem reconfigure_eq (T : Transport σ) (m : Manager σ) {config : LinkConfig}
    {settings : Settings} (hc : config.settings = .ok settings) :
    m.reconfigure T config =
      (match (((unlistenAll { m with settings } (m.unwanted settings)).listenAll T
          (m.missing settings)).1).head? with
        | none => .ok ()
        | some e => .error e,
        ((unlistenAll { m with settings } (m.unwanted settings)).listenAll T
          (m.missing settings)).2) := by
  unfold reconfigure unwanted missing places
  rw [hc]
  dsimp only
  generalize listenAll T _ _ = answer
  obtain ⟨errors, m'⟩ := answer
  cases errors with
  | nil => rfl
  | cons e errors => rfl

theorem mem_missing {settings : Settings} (spec : ListenSpec) :
    spec ∈ m.missing settings ↔ spec ∈ settings.listen ∧ spec ∉ m.places := by
  simp [missing]

section Phases

/-! First the listeners that are not wanted any more are ended (`m₁`), then the
missing ones are started. -/

variable {T : Transport σ} {settings : Settings} {m₁ : Manager σ}
  {answer : List LinkError × Manager σ} (hstarts : m₁.Starts T (m.missing settings) answer)
  (hends : Ends { m with settings } (m.unwanted settings) m₁)

include hstarts hends

theorem Starts.running (hn : settings.listen.Nodup) (spec : ListenSpec) :
    spec ∈ answer.2.places ↔ spec ∈ settings.listen ∧
      ∀ b ∈ T.bids (m.missing settings) m.transport, b.spec = spec → b.error? = none := by
  have hplaces : spec ∈ m₁.places ↔ spec ∈ m.places ∧ spec ∈ settings.listen :=
    Ends.mem_places (m := { m with settings }) hends spec
  have htransport : m₁.transport = m.transport := hends.transport
  rw [hstarts.mem_places (hn.filter _), hplaces, mem_missing, htransport]
  constructor
  · rintro (⟨hold, hw⟩ | ⟨⟨hw, -⟩, hall⟩)
    · -- Where the node listens already, nothing was asked for.
      refine ⟨hw, fun b hb hspec => ?_⟩
      have hin : b.spec ∈ m.missing settings :=
        T.places_bids (m.missing settings) m.transport ▸ List.mem_map.mpr ⟨b, hb, rfl⟩
      exact absurd (hspec ▸ hold) ((mem_missing b.spec).mp hin).2
    · exact ⟨hw, hall⟩
  · rintro ⟨hw, hall⟩
    by_cases hold : spec ∈ m.places
    · exact .inl ⟨hold, hw⟩
    · exact .inr ⟨⟨hw, hold⟩, hall⟩

/-- The inlet of a listener is none of those that are opened later. -/
theorem Starts.old_inlet (ho : m.Orderly) {l : Listener} (hl : l ∈ m.listeners) :
    answer.2.inlets.find? l.inlet = m₁.inlets.find? l.inlet := by
  have hj : l.inlet ∈ m₁.inlets.numbers := by
    rw [hends.settled.numbers]
    exact ho.opened l hl
  exact hstarts.others l.inlet hj

theorem Starts.kept (ho : m.Orderly) {l : Listener} (hl : l ∈ m.listeners)
    (hw : l.spec ∈ settings.listen) :
    l ∈ answer.2.listeners ∧ answer.2.inlets.find? l.inlet = m.inlets.find? l.inlet := by
  have hl₁ : l ∈ m₁.listeners :=
    (Ends.mem_listeners (m := { m with settings }) hends l).mpr ⟨hl, hw⟩
  obtain ⟨new, hnew, -⟩ := hstarts.listeners
  constructor
  · rw [hnew]
    exact List.mem_append_left _ hl₁
  · rw [hstarts.old_inlet hends ho hl]
    refine hends.others l.inlet fun l' hl' hs' heq' => ?_
    -- No two listeners have one inlet.
    rw [ho.eq_of_inlet hl' hl heq', unwanted, List.mem_filter, decide_eq_true_eq] at hs'
    exact hs'.2 hw

theorem Starts.new {l : Listener} (hl : l ∈ answer.2.listeners) :
    l ∈ m.listeners ∨ l.bid ∈ T.bids (m.missing settings) m.transport ∧
      answer.2.inlets.find? l.inlet = some { spec := l.spec } := by
  have htransport : m₁.transport = m.transport := hends.transport
  obtain ⟨new, hnew, hbids, hready⟩ := hstarts.listeners
  rw [hnew, List.mem_append] at hl
  rcases hl with hl | hl
  · exact .inl ((Ends.mem_listeners (m := { m with settings }) hends l).mp hl).1
  · have hb : l.bid ∈ new.map Listener.bid := List.mem_map.mpr ⟨l, hl, rfl⟩
    rw [hbids, htransport] at hb
    exact .inr ⟨(List.mem_filter.mp hb).1, hready l hl⟩

theorem Starts.ended (ho : m.Orderly) {l : Listener} (hl : l ∈ m.listeners)
    (hw : l.spec ∉ settings.listen) {inlet : Inlet}
    (hinlet : answer.2.inlets.find? l.inlet = some inlet) : inlet.isServed = false := by
  rw [hstarts.old_inlet hends ho hl] at hinlet
  refine hends.unserved l hl ?_ inlet hinlet
  exact List.mem_filter.mpr ⟨List.mem_map.mpr ⟨l, hl, rfl⟩, decide_eq_true hw⟩

end Phases

/-- **Every valid configuration is reconciled.** -/
theorem reconfigure_reconciled (T : Transport σ) (ho : m.Orderly) (hs : m.isStopped = false)
    {config : LinkConfig} {settings : Settings} (hc : config.settings = .ok settings) :
    m.Reconciled T settings (m.reconfigure T config) := by
  have hn := LinkConfig.nodup_listen hc
  have htasks := (keeps_reconfigure T m config).tasks
  rw [reconfigure_eq T m hc] at htasks ⊢
  have ho₀ : Orderly { m with settings } := ho.of_settled ⟨.refl _, rfl, rfl⟩
  have hends := ends_unlistenAll (m.unwanted settings) ho₀
  generalize unlistenAll { m with settings } (m.unwanted settings) = m₁ at hends htasks ⊢
  have htransport : m₁.transport = m.transport := hends.transport
  have hstarts : m₁.Starts T (m.missing settings) (m₁.listenAll T (m.missing settings)) := by
    refine starts_listenAll T _ (ho₀.of_settled hends.settled) ?_ (hn.filter _) ?_
    · rw [hends.toNode]
      exact hs
    · intro spec hin hplace
      have hold := (Ends.mem_places (m := { m with settings }) hends spec).mp hplace
      exact ((mem_missing spec).mp hin).2 hold.1
  constructor
  case toNode => rw [hstarts.toNode, hends.toNode]
  case tasks => exact htasks
  case once => exact hn
  case requests => rw [hstarts.requests, hends.requests]
  case running => exact hstarts.running hends hn
  case kept => exact fun l hl hw => hstarts.kept hends ho hl hw
  case new => exact fun l hl => hstarts.new hends hl
  case ended => exact fun l hl hw inlet hinlet => hstarts.ended hends ho hl hw hinlet
  case result => rw [hstarts.errors, List.head?_filterMap, htransport]
  case orderly => exact hstarts.orderly

/-- **A configuration that is in force already changes nothing.** -/
theorem reconfigure_of_running (T : Transport σ) {config : LinkConfig}
    (hc : config.settings = .ok m.settings)
    (hplaces : ∀ spec, spec ∈ m.places ↔ spec ∈ m.settings.listen) :
    m.reconfigure T config = (.ok (), m) := by
  have hunwanted : m.unwanted m.settings = [] :=
    List.filter_eq_nil_iff.mpr fun spec hin => by simp [(hplaces spec).mp hin]
  have hmissing : m.missing m.settings = [] :=
    List.filter_eq_nil_iff.mpr fun spec hin => by simp [(hplaces spec).mpr hin]
  rw [reconfigure_eq T m hc, hunwanted, hmissing]
  rfl

/-- **A configuration that succeeded changes nothing the second time.** -/
theorem Reconciled.again {T : Transport σ} {config : LinkConfig} {settings : Settings}
    {answer : Except LinkError Unit × Manager σ} (h : m.Reconciled T settings answer)
    (hc : config.settings = .ok settings) (hok : answer.1 = .ok ()) :
    answer.2.reconfigure T config = (.ok (), answer.2) := by
  have hset : answer.2.settings = settings := by rw [h.toNode]
  have hnone : (T.bids (m.missing settings) m.transport).findSome? Bid.error? = none := by
    have hresult := h.result
    rw [hok] at hresult
    split at hresult
    · assumption
    · cases hresult
  refine reconfigure_of_running T (hset.symm ▸ hc) fun spec => ?_
  rw [hset, h.running spec]
  exact and_iff_left fun b hb _ => List.findSome?_eq_none_iff.mp hnone b hb

end Manager

end LinkLayer

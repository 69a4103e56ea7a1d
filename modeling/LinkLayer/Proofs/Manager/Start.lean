/-
  LinkLayer.Proofs.Manager.Start
  ──────────────────────────────
  **A NODE STARTS WITH ALL OF ITS LISTENERS, OR WITH NONE.**

  A start asks the transport for one listener after the other, in the order
  of the configuration.  The first refusal ends it: the node is stopped, which
  ends the listeners that were started, and the refusal is the result,
  whatever becomes of the stop.

    • `LinkConfig.listen_of_settings` — the places that are asked for,
    • `Launched`, `launched_startListeners` — the start without a refusal,
    • `CalledOff`, `calledOff_startListeners` — the start up to the first one,
    • `start_all_or_none` — **both, for every configuration and transport.**
-/
import LinkLayer.Proofs.Manager.Stop
import LinkLayer.Transport.Scripted

namespace LinkLayer

/-! ## §1. The places of a configuration. -/

/-- **The places of a valid configuration**: those of its texts, in their
order, each of them once. -/
theorem LinkConfig.listen_of_settings {config : LinkConfig} {settings : Settings}
    (h : config.settings = .ok settings) :
    ∃ specs, readListeners config.listen = .ok specs ∧ settings.listen = Text.firsts specs ∧
      settings.listen.Nodup ∧ settings.listen.Sublist specs ∧
      ∀ spec, spec ∈ settings.listen ↔ spec ∈ specs := by
  have hnodup := nodup_listen h
  unfold LinkConfig.settings at h
  repeat' split at h
  all_goals cases h
  next specs hspecs =>
    exact ⟨specs, hspecs, rfl, hnodup, Text.firsts_sublist specs, Text.mem_firsts specs⟩

variable {σ : Type} {T : Transport σ}

namespace Manager

variable {m : Manager σ} {specs done : List ListenSpec} {spec : ListenSpec}

/-! ## §2. A start without a refusal. -/

/-- Each listener has a queue that is fed and served, with nothing in it. -/
def Ready (m : Manager σ) : Prop :=
  ∀ l ∈ m.listeners, m.inlets.find? l.inlet = some { spec := l.spec }

/-- What comes of a request for a new place is what the transport answers. -/
theorem listen_of_new (T : Transport σ) (hs : m.isStopped = false) (hspec : spec ∉ m.places) :
    m.listen T spec =
      match (T.listen spec m.transport).result with
      | .error e => (.error (.transport e),
          m.asked (.listen spec) (T.listen spec m.transport))
      | .ok bound => (.ok bound,
          (m.asked (.listen spec) (T.listen spec m.transport)).addListener spec bound) := by
  have hfree := listenerAt_eq_none.mpr hspec
  cases hr : (T.listen spec m.transport).result with
  | error e => simp [listen, hs, hfree, hr]
  | ok bound => simp [listen, hs, hfree, hr]

/-- Without a refusal, a start goes through its list. -/
theorem startListeners_of_granted (T : Transport σ) (hs : m.isStopped = false)
    (hnodup : specs.Nodup) (hnew : ∀ spec ∈ specs, spec ∉ m.places)
    (hb : ∀ b ∈ T.bids specs m.transport, b.error? = none) :
    m.startListeners T specs = (.ok (), (m.listenAll T specs).2) := by
  induction specs generalizing m with
  | nil => rfl
  | cons spec rest ih =>
      obtain ⟨hnotin, hrest⟩ := List.nodup_cons.mp hnodup
      obtain ⟨hfirst, hbids⟩ := List.forall_mem_cons.mp hb
      have hlisten := listen_of_new T hs (hnew spec List.mem_cons_self)
      cases hr : (T.listen spec m.transport).result with
      | error e => simp [Bid.error?, hr] at hfirst
      | ok bound =>
          rw [hr] at hlisten
          unfold startListeners listenAll
          rw [hlisten]
          refine ih hs hrest ?_ hbids
          intro spec' hin hplace
          -- The next place is neither an old one nor the one just started.
          rw [places_addListener, List.mem_append, List.mem_singleton] at hplace
          rcases hplace with hold | rfl
          · exact hnew spec' (List.mem_cons_of_mem _ hin) hold
          · exact hnotin hin

/-- The node listens at all places, bound as the transport said, and nothing
else was asked of the transport. -/
structure Launched (T : Transport σ) (state : σ) (specs : List ListenSpec)
    (answer : Except LinkError Unit × Manager σ) : Prop where
  result : answer.1 = .ok ()
  requests : answer.2.requests = specs.map .listen
  listeners : answer.2.listeners.map Listener.bid = T.bids specs state
  ready : answer.2.Ready
  running : answer.2.isStopped = false

/-- **Without a refusal, a new node listens at all places.** -/
theorem launched_startListeners (T : Transport σ) (me : Identity) (settings : Settings)
    (engine : Engine) (state : σ) (hnodup : specs.Nodup)
    (hb : ∀ b ∈ T.bids specs state, b.error? = none) :
    Launched T state specs ((new me settings engine state).startListeners T specs) := by
  let m₀ := new me settings engine state
  have ho : m₀.Orderly :=
    ⟨.nil, .nil, fun _ h => absurd h List.not_mem_nil, fun _ h => absurd h List.not_mem_nil⟩
  have hnew : ∀ spec ∈ specs, spec ∉ m₀.places := fun _ _ => List.not_mem_nil
  have hstarts := starts_listenAll T specs ho rfl hnodup hnew
  obtain ⟨new', hlisteners, hbids, hready⟩ := hstarts.listeners
  show Launched T state specs (m₀.startListeners T specs)
  rw [startListeners_of_granted T rfl hnodup hnew hb]
  constructor
  case result => rfl
  case requests => exact hstarts.requests
  case listeners =>
      -- All bids were granted, so none is left out.
      refine (congrArg (List.map Listener.bid) hlisteners).trans (hbids.trans ?_)
      exact List.filter_eq_self.mpr fun b hin => Option.isNone_iff_eq_none.mpr (hb b hin)
  case ready =>
      -- There was no listener before, so all of them are new.
      have hall : (m₀.listenAll T specs).2.listeners = new' := hlisteners
      intro l hl
      rw [hall] at hl
      exact hready l hl
  case running => exact congrArg (·.isStopped) hstarts.toNode

/-! ## §3. A start with a refusal. -/

/-- A start was given up at a place for which the transport refused a
listener: the places before it were asked for, and that place, and then the
transport was asked to stop.  The refusal is the result, nobody listens and
nothing is served. -/
structure CalledOff (before : List Request) (done : List ListenSpec) (spec : ListenSpec)
    (e : TransportError) (answer : Except LinkError Unit × Manager σ) : Prop where
  result : answer.1 = .error (.transport e)
  requests : answer.2.requests = before ++ (done ++ [spec]).map .listen ++ [.stop]
  listeners : answer.2.listeners = []
  unserved : ∀ j inlet, answer.2.inlets.find? j = some inlet → inlet.isServed = false
  stopped : answer.2.isStopped = true

/-- At a place that is refused the node is stopped, and the refusal is the
result.  What the stop returns is reported at most. -/
theorem startListeners_of_refused (T : Transport σ) (hs : m.isStopped = false)
    (hspec : spec ∉ m.places) {e : TransportError}
    (hr : (T.listen spec m.transport).result = .error e) (rest : List ListenSpec) :
    let asked := m.asked (.listen spec) (T.listen spec m.transport)
    ∃ notices, m.startListeners T (spec :: rest) =
      (.error (.transport e),
        ((asked.report [.listenerFailed spec (.transport e)]).stop T).2.report notices) := by
  have hlisten := listen_of_new T hs hspec
  rw [hr] at hlisten
  unfold startListeners
  rw [hlisten]
  dsimp only
  split
  · next hstop =>
      rw [hstop]
      exact ⟨[], by simp [report]⟩
  · next stopError _ hstop =>
      rw [hstop]
      exact ⟨[.stopFailed stopError], rfl⟩

/-- The place that is refused ends the start. -/
theorem calledOff_of_refused (T : Transport σ) (hst : m.Staffed) (hs : m.isStopped = false)
    (hspec : spec ∉ m.places) {e : TransportError}
    (hr : (T.listen spec m.transport).result = .error e) (rest : List ListenSpec) :
    CalledOff m.requests [] spec e (m.startListeners T (spec :: rest)) := by
  obtain ⟨notices, hstart⟩ := startListeners_of_refused T hs hspec hr rest
  rw [hstart]
  generalize hm : (m.asked (.listen spec) (T.listen spec m.transport)).report
    [.listenerFailed spec (.transport e)] = m₁
  have hst₁ : m₁.Staffed := hm ▸ hst.of_same rfl rfl
  have hs₁ : m₁.isStopped = false := hm ▸ hs
  have hrequests₁ : m₁.requests = m.requests ++ [.listen spec] := hm ▸ rfl
  have hstops := stop_of_running T hs₁
  constructor
  case result => rfl
  case requests =>
      have hrequests := hstops.requests
      rw [hrequests₁] at hrequests
      exact hrequests
  case listeners => exact hstops.listeners
  case unserved => exact fun j inlet hj => (hst₁.stop T).unserved hstops.listeners hj
  case stopped => exact congrArg (·.isStopped) hstops.toNode

/-- **A start is given up at the first place that is refused.** -/
theorem calledOff_startListeners (T : Transport σ) (hst : m.Staffed) (hs : m.isStopped = false)
    (hnodup : specs.Nodup) (hnew : ∀ spec ∈ specs, spec ∉ m.places) {granted rest : List Bid}
    {e : TransportError} (hb : T.bids specs m.transport = granted ++ ⟨spec, .error e⟩ :: rest)
    (hgranted : ∀ b ∈ granted, b.error? = none) :
    CalledOff m.requests (granted.map (·.spec)) spec e (m.startListeners T specs) := by
  induction specs generalizing m granted with
  | nil => simp [Transport.bids] at hb
  | cons first others ih =>
      obtain ⟨hnotin, hrest⟩ := List.nodup_cons.mp hnodup
      have hfirst := hnew first List.mem_cons_self
      rw [Transport.bids] at hb
      cases granted with
      | nil =>
          -- The first place is refused.
          obtain ⟨hbid, -⟩ := List.cons.inj hb
          obtain ⟨rfl, hr⟩ := Bid.mk.inj hbid
          exact calledOff_of_refused T hst hs hfirst hr others
      | cons b granted =>
          -- The first place is granted, and the start goes on from there.
          obtain ⟨hbid, htail⟩ := List.cons.inj hb
          obtain ⟨hnone, hothers⟩ := List.forall_mem_cons.mp hgranted
          subst hbid
          have hlisten := listen_of_new T hs hfirst
          cases hr : (T.listen first m.transport).result with
          | error e' => simp [Bid.error?, hr] at hnone
          | ok bound =>
              rw [hr] at hlisten
              unfold startListeners
              rw [hlisten]
              let m₁ := (m.asked (.listen first) (T.listen first m.transport)).addListener
                first bound
              have hasked : (m.asked (.listen first) (T.listen first m.transport)).Staffed :=
                hst.of_same rfl rfl
              have hst₁ : m₁.Staffed := hasked.addListener first bound
              have hnew₁ : ∀ spec ∈ others, spec ∉ m₁.places := by
                intro spec hin hplace
                rw [places_addListener, List.mem_append, List.mem_singleton] at hplace
                rcases hplace with hold | rfl
                · exact hnew spec (List.mem_cons_of_mem _ hin) hold
                · exact hnotin hin
              have hoff := ih hst₁ hs hrest hnew₁ htail hothers
              refine ⟨hoff.result, ?_, hoff.listeners, hoff.unserved, hoff.stopped⟩
              rw [hoff.requests]
              simp [m₁, addListener, asked]

/-! ## §4. The start. -/

/-- **All listeners, or none.**  For every configuration, every transport and
every state of it:

  • if the configuration is bad, its error is the result; there is no node,
    and so nothing was asked of the transport,
  • otherwise the places are those of the configuration, each of them once, in
    their order.  If the transport grants all of them, the node listens at
    these and no others,
  • and if it refuses one of them, the first refusal is the result.  The places
    up to that one were asked for, and then the stop; nobody listens. -/
theorem start_all_or_none (T : Transport σ) (me : Identity) (config : LinkConfig)
    (engine : Engine) (state : σ) :
    (∀ e, config.settings = .error e → start T me config engine state = .error (.config e)) ∧
    ∀ settings, config.settings = .ok settings →
      (∃ specs, LinkConfig.readListeners config.listen = .ok specs ∧
        settings.listen = Text.firsts specs ∧ settings.listen.Nodup ∧
        settings.listen.Sublist specs ∧ ∀ spec, spec ∈ settings.listen ↔ spec ∈ specs) ∧
      ∃ answer, start T me config engine state = .ok answer ∧
        ((∀ b ∈ T.bids settings.listen state, b.error? = none) →
          Launched T state settings.listen answer) ∧
        ∀ granted spec e rest, T.bids settings.listen state = granted ++ ⟨spec, .error e⟩ :: rest →
          (∀ b ∈ granted, b.error? = none) →
          CalledOff [] (granted.map (·.spec)) spec e answer := by
  constructor
  · intro e hc
    unfold start
    rw [hc]
  · intro settings hc
    have hnodup := LinkConfig.nodup_listen hc
    refine ⟨LinkConfig.listen_of_settings hc,
      (new me settings engine state).startListeners T settings.listen, ?_, ?_, ?_⟩
    · unfold start
      rw [hc]
    · exact launched_startListeners T me settings engine state hnodup
    · intro granted spec e rest hb hgranted
      have hst : (new me settings engine state).Staffed := by
        constructor <;> intro j inlet hj <;> cases hj
      exact calledOff_startListeners T hst rfl hnodup (fun _ _ => List.not_mem_nil) hb hgranted

/-- Three places, one of them given twice. -/
def threePlaces : LinkConfig where
  listen := ["tcp://192.0.2.1:9", "tls://192.0.2.2:9", "tcp://192.0.2.1:9", "tcp://192.0.2.3:9"]

/-- Where they are. -/
def firstPlace : ListenSpec := ⟨.tcp, ⟨.v4 ⟨192, 0, 2, 1⟩, 9⟩⟩

/-- The second one of them. -/
def secondPlace : ListenSpec := ⟨.tls, ⟨.v4 ⟨192, 0, 2, 2⟩, 9⟩⟩

/-- The third one. -/
def thirdPlace : ListenSpec := ⟨.tcp, ⟨.v4 ⟨192, 0, 2, 3⟩, 9⟩⟩

/-- A transport that grants all three, and one that refuses the second place and
does not even stop. -/
theorem start_all_or_none_threePlaces :
    (∃ answer, start Script.transport (.replicate 0xaa) threePlaces .collect {} = .ok answer ∧
      Launched Script.transport {} [firstPlace, secondPlace, thirdPlace] answer) ∧
    ∃ answer, start Script.transport (.replicate 0xaa) threePlaces .collect
        { listenErrors := [("tls://192.0.2.2:9", .io "address in use")],
          stopError := some (.io "gone") } = .ok answer ∧
      CalledOff [] [firstPlace] secondPlace (.io "address in use") answer := by
  have hc : threePlaces.settings = .ok { listen := [firstPlace, secondPlace, thirdPlace] } := by
    decide +kernel
  have hgood := start_all_or_none Script.transport (.replicate 0xaa) threePlaces .collect {}
  have hbad := start_all_or_none Script.transport (.replicate 0xaa) threePlaces .collect
    { listenErrors := [("tls://192.0.2.2:9", .io "address in use")],
      stopError := some (.io "gone") }
  obtain ⟨-, answer, hanswer, hlaunched, -⟩ := hgood.2 _ hc
  obtain ⟨-, answer', hanswer', -, hoff⟩ := hbad.2 _ hc
  refine ⟨⟨answer, hanswer, hlaunched ?_⟩, answer', hanswer', ?_⟩
  · decide +kernel
  · exact hoff [⟨firstPlace, .ok ⟨.v4 ⟨192, 0, 2, 1⟩, 9⟩⟩] secondPlace (.io "address in use")
      [⟨thirdPlace, .ok ⟨.v4 ⟨192, 0, 2, 3⟩, 9⟩⟩] rfl (by decide)

end Manager

end LinkLayer

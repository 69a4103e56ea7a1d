/-
  LinkLayer.Proofs.Config.Overrides
  ─────────────────────────────────
  **OPTIONS OF THE COMMAND LINE ON TOP OF A FILE.**

  Listeners and peers of the command line come behind those of the file.  They
  are the last that is checked, so they can only add a fault where there was
  none: a bad file is refused with its own error, whatever is added to it.

    • `validate_eq_error_iff` — **the error of a configuration is its first
      fault**,
    • `fault_withOverrides`, `sound_withOverrides` — **what overrides add to
      the faults that there are**,
    • `AskedBy.withOverrides` — **and to the settings**,
    • `overrides_compose` — the same, as one statement,
    • `Program.run_of_file` — how a node starts is decided by one check, that
      of its file with the overrides.
-/
import LinkLayer.Daemon.Program
import LinkLayer.Proofs.Config.Settings

namespace LinkLayer

open LinkLayer.Text

namespace NodeConfig

/-! ## §1. What is at fault. -/

/-- Nothing in the configuration of a node is at fault. -/
structure Sound (c : NodeConfig) : Prop where
  key : ∃ key, c.signingKey = .ok key
  link : c.link.Sound

/-- The first fault in the configuration of a node, as the error that it is
refused with: the private key comes before the link layer. -/
inductive Fault (c : NodeConfig) : NodeError → Prop where
  | key {e : NodeError} (bad : c.signingKey = .error e) : Fault c e
  | link {cause : ConfigError} (key : ∃ key, c.signingKey = .ok key)
      (first : c.link.Fault cause) : Fault c (.linkConfig cause)

variable {c : NodeConfig} {e : NodeError} {listen peers : List String}

theorem Sound.validate_eq (h : c.Sound) : c.validate = .ok () := by
  obtain ⟨key, hkey⟩ := h.key
  obtain ⟨s, hs⟩ := LinkConfig.settings_isOk_iff.mpr h.link
  simp only [validate, hkey, hs]

theorem Fault.validate_eq (h : c.Fault e) : c.validate = .error e := by
  cases h with
  | key bad => simp only [validate, bad]
  | link key first =>
    obtain ⟨key, hkey⟩ := key
    simp only [validate, hkey, first.settings_eq]

/-- Nothing is at fault, or there is a first fault. -/
theorem sound_or_fault (c : NodeConfig) : c.Sound ∨ ∃ e, c.Fault e := by
  cases hkey : c.signingKey with
  | error e => exact .inr ⟨e, .key hkey⟩
  | ok key =>
    rcases c.link.sound_or_fault with hlink | ⟨cause, hlink⟩
    · exact .inl ⟨⟨key, hkey⟩, hlink⟩
    · exact .inr ⟨_, .link ⟨key, hkey⟩ hlink⟩

theorem validate_eq_ok_iff : c.validate = .ok () ↔ c.Sound := by
  refine ⟨fun h => ?_, Sound.validate_eq⟩
  rcases sound_or_fault c with hsound | ⟨e, hfault⟩
  · exact hsound
  · cases h.symm.trans hfault.validate_eq

/-- **A configuration is refused with its first fault.** -/
theorem validate_eq_error_iff : c.validate = .error e ↔ c.Fault e := by
  refine ⟨fun h => ?_, Fault.validate_eq⟩
  rcases sound_or_fault c with hsound | ⟨e', hfault⟩
  · cases h.symm.trans hsound.validate_eq
  · cases h.symm.trans hfault.validate_eq
    exact hfault

end NodeConfig

/-! ## §2. More listeners. -/

namespace LinkConfig

variable {c : LinkConfig} {cause : ConfigError} {listen peers : List String}

/-- More listeners leave the faults that there are, and are at fault
themselves where there was none. -/
theorem fault_append : { c with listen := c.listen ++ listen, peers }.Fault cause ↔
    c.Fault cause ∨ c.Sound ∧ FirstFault ListenSpec.parse listen cause := by
  constructor
  · intro h
    cases h with
    | handshake zero => exact .inl (.handshake zero)
    | dial given zero => exact .inl (.dial given zero)
    | key given first => exact .inl (.key given first)
    | listener given keys first =>
      rcases firstFault_append.mp first with hfile | ⟨hread, hmore⟩
      · exact .inl (.listener given keys hfile)
      · exact .inr ⟨⟨given.1, given.2, keys, hread⟩, hmore⟩
  · rintro (h | ⟨hsound, hmore⟩)
    · cases h with
      | handshake zero => exact .handshake zero
      | dial given zero => exact .dial given zero
      | key given first => exact .key given first
      | listener given keys first =>
        exact .listener given keys (firstFault_append.mpr (.inl first))
    · exact .listener ⟨hsound.handshake, hsound.dial⟩ hsound.keys
        (firstFault_append.mpr (.inr ⟨hsound.listeners, hmore⟩))

theorem sound_append : { c with listen := c.listen ++ listen, peers }.Sound ↔
    c.Sound ∧ AllRead ListenSpec.parse listen := by
  constructor
  · rintro ⟨hhandshake, hdial, hkeys, hlisteners⟩
    obtain ⟨hfile, hmore⟩ := List.forall_mem_append.mp hlisteners
    exact ⟨⟨hhandshake, hdial, hkeys, hfile⟩, hmore⟩
  · rintro ⟨⟨hhandshake, hdial, hkeys, hfile⟩, hmore⟩
    exact ⟨hhandshake, hdial, hkeys, List.forall_mem_append.mpr ⟨hfile, hmore⟩⟩

end LinkConfig

/-- Settings with places to listen behind those that there are: each that is
new, once. -/
def Settings.listenAlso (s : Settings) (specs : List ListenSpec) : Settings :=
  { s with listen := s.listen ++ (specs.filter (· ∉ s.listen)).eraseDups }

/-- More listeners are listened at as well. -/
theorem Settings.AskedBy.append {c : LinkConfig} {s : Settings} {specs : List ListenSpec}
    {listen peers : List String} (h : s.AskedBy c) (hspecs : ReadAs ListenSpec.parse listen specs) :
    (s.listenAlso specs).AskedBy { c with listen := c.listen ++ listen, peers } where
  allowed := h.allowed
  listen := by
    obtain ⟨file, hfile, hlisten⟩ := h.listen
    refine ⟨file ++ specs, hfile.append hspecs, ?_⟩
    rw [listenAlso, hlisten, ← firsts_eq_eraseDups file, ← firsts_eq_eraseDups (file ++ specs),
      firsts_append]
  handshake := h.handshake
  dial := h.dial

/-! ## §3. Overrides. -/

namespace NodeConfig

variable {c : NodeConfig} {e : NodeError} {listen peers : List String}

/-- **Overrides add their own first fault** where there was none, and change no
other. -/
theorem fault_withOverrides : (c.withOverrides listen peers).Fault e ↔
    c.Fault e ∨
      c.Sound ∧ ∃ cause, e = .linkConfig cause ∧ FirstFault ListenSpec.parse listen cause := by
  constructor
  · intro h
    cases h with
    | key bad => exact .inl (.key bad)
    | link key first =>
      rcases LinkConfig.fault_append.mp first with hfile | ⟨hsound, hmore⟩
      · exact .inl (.link key hfile)
      · exact .inr ⟨⟨key, hsound⟩, _, rfl, hmore⟩
  · rintro (h | ⟨hsound, cause, rfl, hmore⟩)
    · cases h with
      | key bad => exact .key bad
      | link key first => exact .link key (LinkConfig.fault_append.mpr (.inl first))
    · exact .link hsound.key (LinkConfig.fault_append.mpr (.inr ⟨hsound.link, hmore⟩))

theorem sound_withOverrides : (c.withOverrides listen peers).Sound ↔
    c.Sound ∧ AllRead ListenSpec.parse listen := by
  constructor
  · rintro ⟨key, link⟩
    obtain ⟨hfile, hmore⟩ := LinkConfig.sound_append.mp link
    exact ⟨⟨key, hfile⟩, hmore⟩
  · rintro ⟨⟨key, link⟩, hmore⟩
    exact ⟨key, LinkConfig.sound_append.mpr ⟨link, hmore⟩⟩

/-- The settings of a configuration with its overrides. -/
theorem settings_withOverrides (h : (c.withOverrides listen peers).Sound) :
    ∃ s specs, c.link.settings = .ok s ∧ ReadAs ListenSpec.parse listen specs ∧
      (c.withOverrides listen peers).link.settings = .ok (s.listenAlso specs) := by
  obtain ⟨hsound, hread⟩ := sound_withOverrides.mp h
  obtain ⟨s, hs⟩ := hsound.link.exists_askedBy
  obtain ⟨specs, hspecs⟩ := mapM_isOk_iff.mpr hread
  have hspecs := mapM_eq_ok_iff.mp hspecs
  exact ⟨s, specs, hsound.link.settings_eq hs, hspecs, h.link.settings_eq (hs.append hspecs)⟩

/-- **Overrides compose with one another and with the check.**  Of every
configuration, with any listeners and peers on top of it:

* overrides on top of overrides are one override, the lists behind each other,
* a configuration that is refused is refused with the same error,
* one that is accepted is accepted with them exactly if each listener can be
  read, and otherwise the first one that cannot is the error,
* what is accepted listens where it did and behind that at each new place once,
  in the order given; who is allowed and the timeouts are as they were,
* the private key is the same, and peers make no difference. -/
theorem overrides_compose (c : NodeConfig) (listen peers : List String) :
    (∀ listen' peers', (c.withOverrides listen peers).withOverrides listen' peers' =
      c.withOverrides (listen ++ listen') (peers ++ peers')) ∧
    (∀ e, c.validate = .error e → (c.withOverrides listen peers).validate = .error e) ∧
    (c.validate = .ok () →
      ((c.withOverrides listen peers).validate = .ok () ↔ AllRead ListenSpec.parse listen) ∧
      ∀ e, (c.withOverrides listen peers).validate = .error e ↔
        ∃ cause, e = .linkConfig cause ∧ FirstFault ListenSpec.parse listen cause) ∧
    ((c.withOverrides listen peers).validate = .ok () →
      ∃ s specs, c.link.settings = .ok s ∧ ReadAs ListenSpec.parse listen specs ∧
        (c.withOverrides listen peers).link.settings =
          .ok { s with listen := s.listen ++ (specs.filter (· ∉ s.listen)).eraseDups }) ∧
    (c.withOverrides listen peers).signingKey = c.signingKey ∧
    ∀ peers', (c.withOverrides listen peers').validate = (c.withOverrides listen peers).validate ∧
      (c.withOverrides listen peers').link.settings =
        (c.withOverrides listen peers).link.settings := by
  refine ⟨?_, ?_, ?_, ?_, rfl, fun peers' => ⟨rfl, rfl⟩⟩
  · intro listen' peers'
    simp only [withOverrides, List.append_assoc]
  · intro e he
    rw [validate_eq_error_iff] at he ⊢
    exact fault_withOverrides.mpr (.inl he)
  · intro hok
    have hsound := validate_eq_ok_iff.mp hok
    refine ⟨?_, fun e => ?_⟩
    · rw [validate_eq_ok_iff, sound_withOverrides]
      exact and_iff_right hsound
    · have hnone : ¬ c.Fault e := fun hfault => by cases hok.symm.trans hfault.validate_eq
      rw [validate_eq_error_iff, fault_withOverrides]
      exact (or_iff_right hnone).trans (and_iff_right hsound)
  · intro hok
    exact settings_withOverrides (validate_eq_ok_iff.mp hok)

/-- A node with a key, a place to listen and one peer that is allowed. -/
def keyed : NodeConfig where
  privateKey := some "0101010101010101010101010101010101010101010101010101010101010101"
  link :=
    { listen := ["tcp://[::1]:9"]
      allowedPublicKeys := ["abababababababababababababababababababababababababababababababab"] }

/-- The same with a key that is too short. -/
def keyedShort : NodeConfig := { keyed with privateKey := some "0101" }

/-- A new place to listen, the place of the node in another spelling, and the
new one again. -/
def alsoListen : List String :=
  ["tls://192.0.2.1:9", "tcp://[0:0:0:0:0:0:0:1]:09", " TLS://192.0.2.1:9"]

/-- The node listens at one more place, and a key that is too short stays the
error behind which no listener is looked at. -/
theorem overrides_compose_keyed :
    (keyed.validate = .ok () ∧ (keyed.withOverrides alsoListen []).validate = .ok () ∧
      AllRead ListenSpec.parse alsoListen ∧
      ∃ s specs, keyed.link.settings = .ok s ∧ ReadAs ListenSpec.parse alsoListen specs ∧
        (keyed.withOverrides alsoListen []).link.settings =
          .ok { s with listen := s.listen ++ (specs.filter (· ∉ s.listen)).eraseDups }) ∧
    (keyed.withOverrides alsoListen []).link.settings = .ok
      { allowed := [.replicate 0xAB]
        listen :=
          [⟨.tcp, ⟨.v6 ⟨[0, 0, 0, 0, 0, 0, 0, 1], rfl⟩, 9⟩⟩, ⟨.tls, ⟨.v4 ⟨192, 0, 2, 1⟩, 9⟩⟩] } ∧
    keyedShort.validate = .error (.badKey (.wrongLength 2)) ∧
    (keyedShort.withOverrides ["tcp://localhost:9"] []).validate =
      .error (.badKey (.wrongLength 2)) := by
  have hkeyed : keyed.validate = .ok () := by decide +kernel
  have hoverridden : (keyed.withOverrides alsoListen []).validate = .ok () := by decide +kernel
  have hshort : keyedShort.validate = .error (.badKey (.wrongLength 2)) := by decide +kernel
  obtain ⟨-, -, haccepted, hsettings, -⟩ := overrides_compose keyed alsoListen []
  obtain ⟨-, hrefused, -⟩ := overrides_compose keyedShort ["tcp://localhost:9"] []
  exact ⟨⟨hkeyed, hoverridden, (haccepted hkeyed).1.mp hoverridden, hsettings hoverridden⟩,
    by decide +kernel, hshort, hrefused _ hshort⟩

end NodeConfig

/-! ## §4. The start of a node. -/

namespace Program

/-- **The check of a file by itself makes no difference to how a node starts**:
it starts if the file with its overrides passes, and fails with the error of
that otherwise. -/
theorem run_of_file {η : Type} (machine : Machine η) {path text : String}
    {listen peers : List String} {source : Option String}
    {content : String → Except String String} {fresh : PrivateKey} {state : η}
    {c : NodeConfig} (hfile : content path = .ok text)
    (hheld : (Toml.parse text).bind NodeConfig.ofEntries = some c) :
    run machine (some path) listen peers source content fresh state =
      match (c.withOverrides listen peers).validate with
      | .error e => .failed [.daemon (.loading path)] e
      | .ok () =>
        launch machine [.daemon (.loading path)] (c.withOverrides listen peers) source fresh
          state := by
  cases hc : c.validate with
  | ok _ =>
    cases hoverridden : (c.withOverrides listen peers).validate <;>
      simp only [run, configOf, NodeConfig.load, NodeConfig.parse, hfile, hheld, hc, hoverridden]
  | error e =>
    -- The file fails by itself, and would fail with its overrides.
    have hfault : (c.withOverrides listen peers).Fault e :=
      NodeConfig.fault_withOverrides.mpr (.inl (NodeConfig.validate_eq_error_iff.mp hc))
    simp only [run, configOf, NodeConfig.load, NodeConfig.parse, hfile, hheld, hc,
      hfault.validate_eq]

end Program

end LinkLayer

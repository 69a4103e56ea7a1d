/-
  LinkLayer.Proofs.Config.Settings
  ────────────────────────────────
  **A CONFIGURATION AND ITS SETTINGS.**

  A configuration has settings if nothing in it is at fault (`Sound`), and is
  refused with its first fault otherwise (`Fault`): timeouts come before keys,
  and keys before listeners.

    • `settings_eq_ok_iff` — **which settings a configuration has**,
    • `settings_eq_error_iff` — **which error it is refused with**,
    • `Settings.AskedBy.isAllowed_iff` — **a list of keys fails closed**,
    • `settings_exact` — the same, as one statement.
-/
import LinkLayer.Proofs.Config.Readings
import LinkLayer.Proofs.Text.Firsts
import Mathlib.Data.Fintype.BigOperators
import Mathlib.Data.FinEnum

namespace LinkLayer

open LinkLayer.Text

/-! ## §1. What is asked for, and what is at fault. -/

/-- Nothing in a configuration is at fault. -/
structure LinkConfig.Sound (c : LinkConfig) : Prop where
  handshake : c.handshakeTimeoutSecs ≠ 0
  dial : c.dialTimeoutSecs ≠ 0
  keys : AllRead readKey c.allowedPublicKeys
  listeners : AllRead ListenSpec.parse c.listen

/-- The first fault of a configuration, as the error that it is refused
with. -/
inductive LinkConfig.Fault (c : LinkConfig) : ConfigError → Prop where
  | handshake (zero : c.handshakeTimeoutSecs = 0) :
      Fault c (.validation "handshake timeout must be greater than 0")
  | dial (given : c.handshakeTimeoutSecs ≠ 0) (zero : c.dialTimeoutSecs = 0) :
      Fault c (.validation "dial timeout must be greater than 0")
  | key {e : ConfigError} (given : c.handshakeTimeoutSecs ≠ 0 ∧ c.dialTimeoutSecs ≠ 0)
      (first : FirstFault readKey c.allowedPublicKeys e) : Fault c e
  | listener {e : ConfigError} (given : c.handshakeTimeoutSecs ≠ 0 ∧ c.dialTimeoutSecs ≠ 0)
      (keys : AllRead readKey c.allowedPublicKeys)
      (first : FirstFault ListenSpec.parse c.listen e) : Fault c e

/-- Some settings are what a configuration asks for: the keys and listeners of
its texts, each of them once, and its timeouts in milliseconds. -/
structure Settings.AskedBy (s : Settings) (c : LinkConfig) : Prop where
  allowed : ∃ keys, ReadAs LinkConfig.readKey c.allowedPublicKeys keys ∧
    s.allowed = keys.eraseDups
  listen : ∃ specs, ReadAs ListenSpec.parse c.listen specs ∧ s.listen = specs.eraseDups
  handshake : s.handshakeTimeout = c.handshakeTimeoutSecs * 1000
  dial : s.dialTimeout = c.dialTimeoutSecs * 1000

namespace LinkConfig

variable {c : LinkConfig} {s : Settings} {e : ConfigError}

/-- The settings of a configuration whose timeouts are given. -/
theorem settings_of_given (hhandshake : c.handshakeTimeoutSecs ≠ 0)
    (hdial : c.dialTimeoutSecs ≠ 0) :
    c.settings = (c.allowedPublicKeys.mapM readKey).bind fun keys =>
      (c.listen.mapM ListenSpec.parse).map fun specs =>
        { allowed := keys.eraseDups
          listen := specs.eraseDups
          handshakeTimeout := c.handshakeTimeoutSecs * 1000
          dialTimeout := c.dialTimeoutSecs * 1000 } := by
  rw [settings, if_neg hhandshake, if_neg hdial, readKeys_eq_mapM, readListeners_eq_mapM]
  simp only [firsts_eq_eraseDups]
  cases c.allowedPublicKeys.mapM readKey <;> cases c.listen.mapM ListenSpec.parse <;> rfl

/-! ## §2. Settings. -/

/-- What a sound configuration asks for are its settings. -/
theorem Sound.settings_eq (hc : c.Sound) (hs : s.AskedBy c) : c.settings = .ok s := by
  obtain ⟨⟨keys, hkeys, hallowed⟩, ⟨specs, hspecs, hlisten⟩, hhandshake, hdial⟩ := hs
  rw [settings_of_given hc.handshake hc.dial, mapM_eq_ok_iff.mpr hkeys, mapM_eq_ok_iff.mpr hspecs]
  cases s
  cases hallowed
  cases hlisten
  cases hhandshake
  cases hdial
  rfl

theorem Sound.exists_askedBy (hc : c.Sound) : ∃ s : Settings, s.AskedBy c := by
  obtain ⟨keys, hkeys⟩ := mapM_isOk_iff.mpr hc.keys
  obtain ⟨specs, hspecs⟩ := mapM_isOk_iff.mpr hc.listeners
  exact ⟨⟨keys.eraseDups, specs.eraseDups, c.handshakeTimeoutSecs * 1000, c.dialTimeoutSecs * 1000⟩,
    ⟨keys, mapM_eq_ok_iff.mp hkeys, rfl⟩, ⟨specs, mapM_eq_ok_iff.mp hspecs, rfl⟩, rfl, rfl⟩

/-- The first fault is the error. -/
theorem Fault.settings_eq (h : c.Fault e) : c.settings = .error e := by
  cases h with
  | handshake zero => rw [settings, if_pos zero]
  | dial given zero => rw [settings, if_neg given, if_pos zero]
  | key given first =>
    rw [settings_of_given given.1 given.2, mapM_eq_error_iff.mpr first]
    rfl
  | listener given keys first =>
    obtain ⟨ks, hkeys⟩ := mapM_isOk_iff.mpr keys
    rw [settings_of_given given.1 given.2, hkeys, mapM_eq_error_iff.mpr first]
    rfl

/-- Nothing is at fault, or there is a first fault. -/
theorem sound_or_fault (c : LinkConfig) : c.Sound ∨ ∃ e, c.Fault e := by
  by_cases hhandshake : c.handshakeTimeoutSecs = 0
  · exact .inr ⟨_, .handshake hhandshake⟩
  by_cases hdial : c.dialTimeoutSecs = 0
  · exact .inr ⟨_, .dial hhandshake hdial⟩
  rcases allRead_or_firstFault readKey c.allowedPublicKeys with hkeys | ⟨e, hfirst⟩
  · rcases allRead_or_firstFault ListenSpec.parse c.listen with hlisteners | ⟨e, hfirst⟩
    · exact .inl ⟨hhandshake, hdial, hkeys, hlisteners⟩
    · exact .inr ⟨e, .listener ⟨hhandshake, hdial⟩ hkeys hfirst⟩
  · exact .inr ⟨e, .key ⟨hhandshake, hdial⟩ hfirst⟩

/-- **The settings of a sound configuration are those that it asks for.** -/
theorem settings_eq_ok_iff : c.settings = .ok s ↔ c.Sound ∧ s.AskedBy c := by
  constructor
  · intro h
    rcases sound_or_fault c with hsound | ⟨e, hfault⟩
    · obtain ⟨s', hs'⟩ := hsound.exists_askedBy
      cases h.symm.trans (hsound.settings_eq hs')
      exact ⟨hsound, hs'⟩
    · cases h.symm.trans hfault.settings_eq
  · rintro ⟨hsound, hs⟩
    exact hsound.settings_eq hs

/-- **Any other configuration is refused with its first fault.** -/
theorem settings_eq_error_iff : c.settings = .error e ↔ c.Fault e := by
  constructor
  · intro h
    rcases sound_or_fault c with hsound | ⟨e', hfault⟩
    · obtain ⟨s, hs⟩ := hsound.exists_askedBy
      cases h.symm.trans (hsound.settings_eq hs)
    · cases h.symm.trans hfault.settings_eq
      exact hfault
  · exact Fault.settings_eq

theorem settings_isOk_iff : (∃ s, c.settings = .ok s) ↔ c.Sound := by
  constructor
  · rintro ⟨s, hs⟩
    exact (settings_eq_ok_iff.mp hs).1
  · intro hsound
    obtain ⟨s, hs⟩ := hsound.exists_askedBy
    exact ⟨s, hsound.settings_eq hs⟩

end LinkConfig

/-! ## §3. Who is allowed. -/

/-- **No list names all identities**, unless it is as long as there are
identities. -/
theorem Identity.exists_not_mem {keys : List Identity}
    (h : keys.length < 256 ^ publicKeyLength) : ∃ k, k ∉ keys := by
  by_contra hall
  rw [not_exists] at hall
  -- The octets of the keys would be all strings of that many octets.
  let strings : List (List.Vector UInt8 publicKeyLength) :=
    keys.map fun k => ⟨k.bytes, k.length_eq⟩
  have hstrings : ∀ v, v ∈ strings.toFinset := by
    intro v
    rw [List.mem_toFinset]
    exact List.mem_map.mpr ⟨⟨v.1, v.2⟩, not_not.mp (hall _), rfl⟩
  have hoctets : Fintype.card UInt8 = 256 :=
    (Fintype.card_congr ⟨UInt8.toFin, UInt8.ofFin, fun _ => rfl, fun _ => rfl⟩).trans
      (Fintype.card_fin 256)
  have hcard : 256 ^ publicKeyLength = strings.toFinset.card := by
    rw [Finset.eq_univ_iff_forall.mpr hstrings, Finset.card_univ, card_vector, hoctets]
  have hlength : strings.length = keys.length := List.length_map _
  have hle : strings.toFinset.card ≤ strings.length := List.toFinset_card_le strings
  omega

namespace Settings

variable {c : LinkConfig} {s : Settings}

theorem AskedBy.mem_allowed_iff (h : s.AskedBy c) (k : Identity) :
    k ∈ s.allowed ↔ ∃ text ∈ c.allowedPublicKeys, LinkConfig.readKey text = .ok k := by
  obtain ⟨keys, hkeys, hallowed⟩ := h.allowed
  rw [hallowed, List.mem_eraseDups, hkeys.mem_iff]

/-- **A list of keys fails closed**: whoever is allowed is listed. -/
theorem AskedBy.isAllowed_iff (h : s.AskedBy c) (hsome : c.allowedPublicKeys ≠ []) (k : Identity) :
    s.isAllowed k = true ↔ ∃ text ∈ c.allowedPublicKeys, LinkConfig.readKey text = .ok k := by
  have hne : s.allowed ≠ [] := by
    -- The first text that is listed is a key.
    obtain ⟨text, texts, htexts⟩ := List.exists_cons_of_ne_nil hsome
    obtain ⟨keys, hkeys, hallowed⟩ := h.allowed
    rw [htexts] at hkeys
    cases keys with
    | nil => cases hkeys
    | cons k keys =>
      rw [hallowed, List.eraseDups_cons]
      exact List.cons_ne_nil _ _
  rw [← h.mem_allowed_iff, isAllowed]
  simp [hne]

/-- **Nor does it open a node to everybody.** -/
theorem AskedBy.exists_not_allowed (h : s.AskedBy c) (hsome : c.allowedPublicKeys ≠ [])
    (hlength : c.allowedPublicKeys.length < 256 ^ publicKeyLength) :
    ∃ k, s.isAllowed k = false := by
  obtain ⟨keys, hkeys, -⟩ := h.allowed
  obtain ⟨k, hk⟩ := Identity.exists_not_mem (hkeys.length_eq ▸ hlength)
  refine ⟨k, ?_⟩
  rw [← Bool.not_eq_true, h.isAllowed_iff hsome, ← hkeys.mem_iff]
  exact hk

theorem AskedBy.nodup (h : s.AskedBy c) : s.allowed.Nodup ∧ s.listen.Nodup := by
  obtain ⟨keys, -, hallowed⟩ := h.allowed
  obtain ⟨specs, -, hlisten⟩ := h.listen
  rw [hallowed, hlisten, ← firsts_eq_eraseDups, ← firsts_eq_eraseDups]
  exact ⟨nodup_firsts keys, nodup_firsts specs⟩

/-- A place that is given is listened at, and once. -/
theorem AskedBy.count_listen (h : s.AskedBy c) {text : String} (htext : text ∈ c.listen) :
    ∃ spec, ListenSpec.parse text = .ok spec ∧ s.listen.count spec = 1 := by
  obtain ⟨specs, hspecs, hlisten⟩ := h.listen
  have hread : ListenSpec.parse text ∈ c.listen.map ListenSpec.parse := List.mem_map_of_mem htext
  rw [hspecs] at hread
  obtain ⟨spec, hmem, hspec⟩ := List.mem_map.mp hread
  refine ⟨spec, hspec.symm, ?_⟩
  rw [hlisten, ← firsts_eq_eraseDups]
  exact List.count_eq_one_of_mem (nodup_firsts specs) ((mem_firsts specs spec).mpr hmem)

end Settings

/-! ## §4. Configurations as a whole. -/

/-- **A configuration is accepted and built exactly, and its list of keys fails
closed.**  Of every configuration, with any number of seconds for its
timeouts:

* it has settings exactly if no timeout is zero and every key and every
  listener can be read,
* otherwise its error is the first of its faults: the timeout of the handshake,
  that of dialling, the keys in their order, the listeners in theirs,
* the settings are the ones that it asks for.  Each place that is given is
  listened at once, however often and in whatever spelling it is given,
* if any key is listed, those that are listed are allowed and nobody else; and
  no list that is shorter than there are identities allows all of them,
* whom to call makes no difference. -/
theorem settings_exact (c : LinkConfig) :
    ((∃ s, c.settings = .ok s) ↔ c.Sound) ∧
    (∀ e, c.settings = .error e ↔ c.Fault e) ∧
    (∀ s, c.settings = .ok s →
      s.AskedBy c ∧ (s.allowed.Nodup ∧ s.listen.Nodup) ∧
      (∀ text ∈ c.listen, ∃ spec, ListenSpec.parse text = .ok spec ∧ s.listen.count spec = 1) ∧
      (c.allowedPublicKeys ≠ [] →
        (∀ k, s.isAllowed k = true ↔
          ∃ text ∈ c.allowedPublicKeys, LinkConfig.readKey text = .ok k) ∧
        (c.allowedPublicKeys.length < 256 ^ publicKeyLength → ∃ k, s.isAllowed k = false))) ∧
    ∀ peers, { c with peers }.settings = c.settings := by
  refine ⟨LinkConfig.settings_isOk_iff, fun e => LinkConfig.settings_eq_error_iff, ?_,
    fun peers => rfl⟩
  intro s hs
  have hasked := (LinkConfig.settings_eq_ok_iff.mp hs).2
  refine ⟨hasked, hasked.nodup, fun text => hasked.count_listen, ?_⟩
  intro hsome
  exact ⟨hasked.isAllowed_iff hsome, hasked.exists_not_allowed hsome⟩

/-- Two keys, of which one is given again in capitals, and two places, of which
one is given again with all its zeros; the handshake may take as long as can be
written in 64 bits. -/
def spelledTwice : LinkConfig where
  listen := ["tcp://[::1]:9", "tls://192.0.2.1:9", "tcp://[0:0:0:0:0:0:0:1]:09"]
  allowedPublicKeys :=
    ["abababababababababababababababababababababababababababababababab",
      "cdcdcdcdcdcdcdcdcdcdcdcdcdcdcdcdcdcdcdcdcdcdcdcdcdcdcdcdcdcdcdcd",
      " ABABABABABABABABABABABABABABABABABABABABABABABABABABABABABABABAB\n"]
  handshakeTimeoutSecs := 18446744073709551615

/-- Its settings: each key and each place counts once. -/
def spelledOnce : Settings where
  allowed := [.replicate 0xAB, .replicate 0xCD]
  listen := [⟨.tcp, ⟨.v6 ⟨[0, 0, 0, 0, 0, 0, 0, 1], rfl⟩, 9⟩⟩, ⟨.tls, ⟨.v4 ⟨192, 0, 2, 1⟩, 9⟩⟩]
  handshakeTimeout := 18446744073709551615000
  dialTimeout := 10000

theorem settings_exact_spelledTwice :
    spelledTwice.settings = .ok spelledOnce ∧ spelledTwice.allowedPublicKeys ≠ [] ∧
    spelledTwice.allowedPublicKeys.length < 256 ^ publicKeyLength ∧
    spelledOnce.AskedBy spelledTwice ∧ ∃ k, spelledOnce.isAllowed k = false := by
  have hs : spelledTwice.settings = .ok spelledOnce := by decide +kernel
  have hsome : spelledTwice.allowedPublicKeys ≠ [] := by decide
  have hlength : spelledTwice.allowedPublicKeys.length < 256 ^ publicKeyLength := by decide
  obtain ⟨hasked, -, -, hallowed⟩ := (settings_exact spelledTwice).2.2.1 _ hs
  exact ⟨hs, hsome, hlength, hasked, (hallowed hsome).2 hlength⟩

end LinkLayer

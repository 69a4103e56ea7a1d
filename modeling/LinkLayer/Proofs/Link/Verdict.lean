/-
  LinkLayer.Proofs.Link.Verdict
  ─────────────────────────────
  **WHO IS WELCOME, AND WHAT OTHERS GET.**

  `Accepts` is what a peer must be for its link to be registered: of the same
  major version, one of the pinned keys, and on the allow-list of an inbound
  link that was not forced.  The verdict is `welcome` for these peers alone
  (`verdict_eq_welcome`); for all others the outcome is that of the first
  condition that fails (`Refuses.first_failure`).

  `Story.after_read` and `Rejected.after_read` tell how the record of a link
  goes on after the frame.
-/
import LinkLayer.Proofs.Link.Chronicle

namespace LinkLayer.Handler

/-! ## §1. Conditions. -/

/-- The identity is pinned, or none is. -/
def IsPinned (l : Link) (peer : Identity) : Prop :=
  l.options.pinned = [] ∨ peer ∈ l.options.pinned

/-- The link is outgoing or forced, or the identity is on the allow-list, or
that is empty. -/
def IsAllowed (l : Link) (settings : Settings) (peer : Identity) : Prop :=
  l.incoming = false ∨ l.forced = true ∨ settings.allowed = [] ∨ peer ∈ settings.allowed

/-- What a peer must be for its link to be registered. -/
structure Accepts (l : Link) (settings : Settings) (peer : Frame) : Prop where
  version : peer.major = protocolMajor
  pinned : IsPinned l peer.identity
  allowed : IsAllowed l settings peer.identity

variable {l : Link} {settings : Settings} {peer : Frame}

theorem admits_iff : l.options.admits peer.identity = true ↔ IsPinned l peer.identity := by
  simp [LinkOptions.admits, IsPinned]

theorem allowed_iff : (asksAllowList l && !settings.isAllowed peer.identity) = false ↔
    IsAllowed l settings peer.identity := by
  simp only [asksAllowList, Settings.isAllowed, IsAllowed]
  cases l.incoming with
  | false => simp
  | true =>
      cases l.forced with
      | true => simp
      | false => simp [Classical.or_iff_not_imp_left]

/-- **The verdict is `welcome` for those peers alone that meet all
conditions.** -/
theorem verdict_eq_welcome : verdict l settings peer = .welcome ↔ Accepts l settings peer := by
  constructor
  · intro h
    unfold verdict at h
    split at h
    · cases h
    · next hversion =>
        split at h
        · cases h
        · next hpinned =>
            split at h
            · cases h
            · next hallowed =>
                exact ⟨Frame.isCompatible_iff.mp (by simpa using hversion),
                  admits_iff.mp (by simpa using hpinned),
                  allowed_iff.mp (Bool.eq_false_iff.mpr hallowed)⟩
  · intro h
    have hversion := Frame.isCompatible_iff.mpr h.version
    have hpinned := admits_iff.mpr h.pinned
    have hallowed := allowed_iff.mpr h.allowed
    simp [verdict, hversion, hpinned, hallowed]

/-- **What a peer gets is decided by the first condition that it fails.** -/
theorem Refuses.first_failure {outcome : Outcome} (h : Refuses l settings peer outcome) :
    (peer.major ≠ protocolMajor ∧
      outcome = .failed (.incompatibleVersion Frame.ownVersion peer.version)) ∨
    (peer.major = protocolMajor ∧ ¬ IsPinned l peer.identity ∧
      outcome = .failed (.pinnedKeyMismatch l.name)) ∨
    (peer.major = protocolMajor ∧ IsPinned l peer.identity ∧
      ¬ IsAllowed l settings peer.identity ∧ outcome = .finished) := by
  -- The verdict asks for the conditions in this order, so whatever comes later
  -- was preceded by a condition that holds.
  cases h with
  | incompatible hv =>
      refine .inl ⟨?_, rfl⟩
      intro hm
      have hversion := Frame.isCompatible_iff.mpr hm
      unfold verdict at hv
      rw [hversion] at hv
      simp only [Bool.not_true, Bool.false_eq_true, if_false] at hv
      split at hv
      · cases hv
      · split at hv <;> cases hv
  | notPinned hv =>
      unfold verdict at hv
      split at hv
      · cases hv
      · next hversion =>
          split at hv
          · next hpinned =>
              refine .inr (.inl ⟨Frame.isCompatible_iff.mp (by simpa using hversion), ?_, rfl⟩)
              intro hp
              simp [admits_iff.mpr hp] at hpinned
          · split at hv <;> cases hv
  | notAllowed hv =>
      unfold verdict at hv
      split at hv
      · cases hv
      · next hversion =>
          split at hv
          · cases hv
          · next hpinned =>
              split at hv
              · next hallowed =>
                  refine .inr (.inr ⟨Frame.isCompatible_iff.mp (by simpa using hversion),
                    admits_iff.mp (by simpa using hpinned), ?_, rfl⟩)
                  intro ha
                  rw [allowed_iff.mpr ha] at hallowed
                  cases hallowed
              · cases hv

/-- Whoever is refused is not accepted. -/
theorem Refuses.not_accepts {outcome : Outcome} (h : Refuses l settings peer outcome) :
    ¬ Accepts l settings peer := by
  intro ha
  rcases h.first_failure with ⟨hv, -⟩ | ⟨-, hp, -⟩ | ⟨-, -, hl, -⟩
  · exact hv ha.version
  · exact hp ha.pinned
  · exact hl ha.allowed

/-! ## §2. Records with a frame. -/

variable {n : Nat} {octets : Bytes} {ds : List Deed}

/-- What a record that begins with a frame can be. -/
theorem Story.after_read {l' : Link} (h : Story l' n ds)
    (hread : readLog l settings octets <+: ds) (hd : Frame.decode octets = .ok peer) :
    ds = readLog l settings octets ∨
    (Welcome l settings octets peer ∧
      ((∃ holder, ds = askedLog l n settings octets peer holder) ∨
        ds = servedLog l n settings octets peer)) := by
  cases h with
  | blank => simp [readLog] at hread
  | begun => simp [readLog] at hread
  | read =>
      obtain ⟨⟨rfl, rfl⟩, rfl⟩ := by simpa [readLog] using hread
      exact .inl rfl
  | asked hwel =>
      obtain ⟨⟨rfl, rfl⟩, rfl⟩ := by simpa [askedLog, readLog] using hread
      have hpeer := hwel.decoded
      rw [hd] at hpeer
      cases hpeer
      exact .inr ⟨hwel, .inl ⟨_, rfl⟩⟩
  | served hwel =>
      obtain ⟨⟨rfl, rfl⟩, rfl⟩ := by simpa [servedLog, askedLog, readLog] using hread
      have hpeer := hwel.decoded
      rw [hd] at hpeer
      cases hpeer
      exact .inr ⟨hwel, .inr rfl⟩

/-- **Why a link with a frame on record can have been rejected.** -/
theorem Rejected.after_read {l' : Link} {outcome : Outcome} (h : Rejected l' n ds outcome)
    (hread : readLog l settings octets <+: ds) (hd : Frame.decode octets = .ok peer) :
    (ds = readLog l settings octets ∧ Refuses l settings peer outcome) ∨
    ∃ existing, ds = askedLog l n settings octets peer (some existing) ∧
      Accepts l settings peer ∧ outcome = .duplicate existing := by
  cases h with
  | stopped => simp [readLog] at hread
  | broken => simp [readLog] at hread
  | turnedAway hd' hrefuses =>
      obtain ⟨⟨rfl, rfl⟩, rfl⟩ := by simpa [readLog] using hread
      rw [hd] at hd'
      cases hd'
      exact .inl ⟨rfl, hrefuses⟩
  | @duplicate _ _ _ existing hwel =>
      obtain ⟨⟨rfl, rfl⟩, rfl⟩ := by simpa [askedLog, readLog] using hread
      have hpeer := hwel.decoded
      rw [hd] at hpeer
      cases hpeer
      exact .inr ⟨existing, rfl, verdict_eq_welcome.mp hwel.verdict, rfl⟩

end LinkLayer.Handler

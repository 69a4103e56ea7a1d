/-
  LinkLayer.Proofs.Link.Frame
  ───────────────────────────
  **FRAMES AND THEIR OCTETS.**

  Every frame has thirty-five octets, and each of its fields has its place
  among them (`LaidOut`).  The places cover the octets without a gap, so
  octets and frames determine each other:

    • `laidOut_iff` — the octets laid out for a frame are **those that are
      encoded**, and no others,
    • `exists_laidOut` — thirty-five octets are laid out for **some** frame,
    • `decode_eq_ok_iff`, `decode_isOk_iff` — **the decoder reads what is
      laid out**, whatever the octets are, and nothing of another length,
    • `codec_bijective` — the same, as one statement, with the error of
      octets of another length and the version check.

  Of the metrics in two frames, both ends find the same one the larger one.
-/
import LinkLayer.Frame

namespace LinkLayer

namespace Frame

variable {octets : Bytes} {f : Frame}

/-! ## §1. The places of the fields. -/

/-- Thirty-five octets with each field of a frame at its place. -/
structure LaidOut (octets : Bytes) (f : Frame) : Prop where
  length : octets.length = 35
  major : octets[0]? = some f.major
  minor : octets[1]? = some f.minor
  identity : (octets.drop 2).take 32 = f.identity.bytes
  metric : octets[34]? = some f.metric

theorem length_encode (f : Frame) : f.encode.length = frameLength := by
  simp only [encode, List.length_cons, List.length_append, List.length_nil,
    f.identity.length_eq, frameLength]
  omega

theorem laidOut_encode (f : Frame) : LaidOut f.encode f where
  length := f.length_encode
  major := rfl
  minor := rfl
  identity := List.take_left' f.identity.length_eq
  metric := by
    have hlast : (f.identity.bytes ++ [f.metric])[publicKeyLength]? = some f.metric := by
      rw [← f.identity.length_eq]
      exact List.getElem?_concat_length
    exact hlast

/-- **The places leave no gap**: the fields are all that the octets are made
of. -/
theorem LaidOut.eq_encode (h : LaidOut octets f) : octets = f.encode := by
  obtain ⟨hlength, hmajor, hminor, hidentity, hmetric⟩ := h
  match octets with
  | [] => cases hlength
  | [_] => cases hlength
  | major :: minor :: rest =>
      have hone : (rest.drop 32).length = 1 := by
        simp only [List.length_cons] at hlength
        rw [List.length_drop]
        omega
      obtain ⟨metric, hlast⟩ := List.length_eq_one_iff.mp hone
      have hplace : rest[32]? = some metric := by
        rw [← List.head?_drop, hlast]
        rfl
      have hkey : rest.take 32 = f.identity.bytes := hidentity
      cases hmajor
      cases hminor
      cases hplace.symm.trans hmetric
      calc f.major :: f.minor :: rest
          = f.major :: f.minor :: (rest.take 32 ++ rest.drop 32) := by rw [List.take_append_drop]
        _ = f.major :: f.minor :: (f.identity.bytes ++ [f.metric]) := by rw [hkey, hlast]

/-- **The octets laid out for a frame are those that are encoded.** -/
theorem laidOut_iff : LaidOut octets f ↔ octets = f.encode := by
  constructor
  · exact LaidOut.eq_encode
  · rintro rfl
    exact f.laidOut_encode

/-- **Thirty-five octets are laid out for some frame.** -/
theorem exists_laidOut (h : octets.length = 35) : ∃ f, LaidOut octets f := by
  have hidentity : ((octets.drop 2).take 32).length = publicKeyLength := by
    rw [List.length_take, List.length_drop, h]
    rfl
  exact ⟨⟨octets[0], octets[1], ⟨(octets.drop 2).take 32, hidentity⟩, octets[34]⟩, h,
    List.getElem?_eq_getElem _, List.getElem?_eq_getElem _, rfl, List.getElem?_eq_getElem _⟩

/-- As many octets of what carries the stamp of a frame, whether this is a
beginning of the frame or goes beyond it, are the frame. -/
theorem eq_encode_of_prefix {sent : Bytes} (hlength : octets.length = frameLength)
    (hpre : octets <+: sent) (h : sent <+: f.encode ∨ f.encode <+: sent) :
    octets = f.encode := by
  have hsame : octets.length = f.encode.length := hlength.trans f.length_encode.symm
  rcases h with hshort | hlong
  · exact (hpre.trans hshort).eq_of_length hsame
  · exact (List.prefix_of_prefix_length_le hpre hlong (Nat.le_of_eq hsame)).eq_of_length hsame

/-! ## §2. The decoder. -/

/-- A frame is what its octets stand for. -/
theorem decode_encode (f : Frame) : decode f.encode = .ok f := by
  have htake : (f.identity.bytes ++ [f.metric]).take publicKeyLength = f.identity.bytes :=
    List.take_left' f.identity.length_eq
  have hdrop : (f.identity.bytes ++ [f.metric]).drop publicKeyLength = [f.metric] :=
    List.drop_left' f.identity.length_eq
  simp only [decode, encode, htake, hdrop, Identity.ofBytes?, dif_pos f.identity.length_eq]

/-- What is decoded is what was encoded. -/
theorem encode_of_decode {octets : Bytes} {f : Frame} (h : decode octets = .ok f) :
    octets = f.encode := by
  unfold decode at h
  split at h
  · next major minor rest =>
      split at h
      · next identity metric hid hmetric =>
          cases h
          unfold Identity.ofBytes? at hid
          split at hid
          · cases hid
            show major :: minor :: rest = major :: minor :: (rest.take publicKeyLength ++ [metric])
            rw [← hmetric, List.take_append_drop]
          · cases hid
      · cases h
  · cases h

/-- **The decoder reads each field at its place.** -/
theorem decode_eq_ok_iff : decode octets = .ok f ↔ LaidOut octets f := by
  rw [laidOut_iff]
  constructor
  · exact encode_of_decode
  · rintro rfl
    exact f.decode_encode

/-- **The decoder takes every string of the right length**, and no other. -/
theorem decode_isOk_iff : (∃ f, decode octets = .ok f) ↔ octets.length = frameLength := by
  simp only [decode_eq_ok_iff]
  constructor
  · rintro ⟨f, hf⟩
    exact hf.length
  · exact exists_laidOut

/-- Whatever is wrong with octets, their number is reported. -/
theorem decode_cases (octets : Bytes) :
    (∃ f, decode octets = .ok f) ∨ decode octets = .error ⟨octets.length⟩ := by
  unfold decode
  split
  · split
    · exact .inl ⟨_, rfl⟩
    · exact .inr rfl
  · exact .inr rfl

theorem decode_eq_error_iff {e : LengthError} :
    decode octets = .error e ↔ octets.length ≠ frameLength ∧ e.actual = octets.length := by
  rw [ne_eq, ← decode_isOk_iff]
  rcases decode_cases octets with ⟨f, hf⟩ | herror
  · simp [hf]
  · rw [herror, Except.error.injEq, eq_comm (a := e.actual)]
    cases e
    simp

/-! ## §3. Versions. -/

theorem isCompatible_iff : f.isCompatible = true ↔ f.major = protocolMajor := by
  simp [isCompatible]

/-- The first octet is the major version, whatever the other ones are. -/
theorem decode_cons (major : UInt8) {rest : Bytes} (h : rest.length = 34) :
    ∃ f, decode (major :: rest) = .ok f ∧ f.major = major := by
  have hlength : (major :: rest).length = frameLength := by
    rw [List.length_cons, h]
    rfl
  obtain ⟨f, hf⟩ := decode_isOk_iff.mpr hlength
  have hmajor := (decode_eq_ok_iff.mp hf).major
  rw [List.getElem?_cons_zero, Option.some.injEq] at hmajor
  exact ⟨f, hf, hmajor.symm⟩

/-! ## §4. The codec as a whole. -/

/-- **Frames and strings of thirty-five octets are in one-to-one
correspondence.**

* a byte string is decoded exactly if it has thirty-five octets,
* any other one is refused, with the number of octets that a frame has and
  its own,
* what is decoded is what stands at the places of the fields,
* thirty-five octets are encoded again from the frame that they stand for,
* every frame is decoded again from its octets,
* the version check goes by the first octet: whatever the other thirty-four
  are, the octets stand for a frame, and it passes if and only if the first
  one is the major version of this node. -/
theorem codec_bijective :
    (∀ octets, (∃ f, decode octets = .ok f) ↔ octets.length = 35) ∧
    (∀ octets e, decode octets = .error e ↔ octets.length ≠ 35 ∧ e.actual = octets.length) ∧
    (∀ e : LengthError,
      e.message = s!"metadata frame has wrong length (expected 35, got {e.actual})") ∧
    (∀ octets f, decode octets = .ok f ↔ LaidOut octets f) ∧
    (∀ octets, octets.length = 35 → ∃ f, decode octets = .ok f ∧ f.encode = octets) ∧
    (∀ f, decode f.encode = .ok f) ∧
    ∀ major rest, rest.length = 34 →
      ∃ f, decode (major :: rest) = .ok f ∧ (f.isCompatible = true ↔ major = protocolMajor) := by
  refine ⟨fun octets => decode_isOk_iff, fun octets e => decode_eq_error_iff, fun e => rfl,
    fun octets f => decode_eq_ok_iff, ?_, decode_encode, ?_⟩
  · intro octets hlength
    obtain ⟨f, hf⟩ := decode_isOk_iff.mpr hlength
    exact ⟨f, hf, (encode_of_decode hf).symm⟩
  · intro major rest hrest
    obtain ⟨f, hf, hmajor⟩ := decode_cons major hrest
    refine ⟨f, hf, ?_⟩
    rw [isCompatible_iff, hmajor]

/-- Whatever stands behind it, a first octet of 1 is that of another version
and one of 0 that of this one. -/
theorem codec_bijective_versions :
    (List.replicate 34 (0xff : UInt8)).length = 34 ∧
    (∃ f, decode (1 :: List.replicate 34 0xff) = .ok f ∧ f.isCompatible = false) ∧
    ∃ f, decode (0 :: List.replicate 34 0xff) = .ok f ∧ f.isCompatible = true := by
  have hlength : (List.replicate 34 (0xff : UInt8)).length = 34 := List.length_replicate
  obtain ⟨-, -, -, -, -, -, hversion⟩ := codec_bijective
  obtain ⟨f, hf, hother⟩ := hversion 1 _ hlength
  obtain ⟨g, hg, hown⟩ := hversion 0 _ hlength
  refine ⟨hlength, ⟨f, hf, ?_⟩, g, hg, hown.mpr rfl⟩
  rw [← Bool.not_eq_true, hother]
  decide

end Frame

/-! ## §5. Metrics. -/

/-- Both ends find the same one of two metrics the larger one. -/
theorem metric_comm (a b : UInt8) : max a b = max b a := by
  show (if a ≤ b then b else a) = if b ≤ a then a else b
  by_cases hab : a ≤ b
  · by_cases hba : b ≤ a
    · rw [if_pos hab, if_pos hba, UInt8.le_antisymm hab hba]
    · rw [if_pos hab, if_neg hba]
  · rw [if_neg hab, if_pos ((UInt8.le_total a b).resolve_left hab)]

end LinkLayer

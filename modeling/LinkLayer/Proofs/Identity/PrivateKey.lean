/-
  LinkLayer.Proofs.Identity.PrivateKey
  ────────────────────────────────────
  **PRIVATE KEYS, WRITTEN AND READ.**

  A private key is its seed.  It is read from the octets of the seed alone, or
  of the seed with its public key behind it, and written as the latter.  All of
  this holds in every scheme of keys: the public key is a function of the seed
  with thirty-two octets, and nothing else is used of it.

    • `ofBytes_cases` — what octets of each length are read as,
    • `parse_eq_ok_iff`, `parse_eq_notHex_iff`, `parse_eq_wrongLength_iff`,
      `parse_eq_mismatch_iff` — **which texts are keys, and why others are
      not**,
    • `take_encode`, `drop_encode` — a text is written in two halves, the seed
      and the identity,
    • `private_key_text` — the same, as one statement.
-/
import LinkLayer.Proofs.Text.Hex
import LinkLayer.PrivateKey

namespace LinkLayer.PrivateKey

open LinkLayer.Text

variable {S : KeyScheme} {s : String} {bs seed half : Bytes} {key : PrivateKey}

/-! ## §1. Octets. -/

/-- A seed is a key. -/
theorem ofBytes_seed (h : bs.length = seedLength) : ofBytes S bs = .ok ⟨bs, h⟩ := by
  have htake : bs.take seedLength = bs := List.take_of_length_le (Nat.le_of_eq h)
  simp only [ofBytes, h, true_or, dite_true, htake]
  rw [if_neg]
  rintro ⟨hpair, -⟩
  exact absurd hpair (by decide)

/-- A seed with another half behind it is a key exactly if the other half is
its public key. -/
theorem ofBytes_pair (S : KeyScheme) (hseed : seed.length = seedLength)
    (hhalf : half.length = seedLength) :
    ofBytes S (seed ++ half) =
      if half = S.publicKey seed then .ok ⟨seed, hseed⟩ else .error .mismatch := by
  have hlength : (seed ++ half).length = 2 * seedLength := by
    rw [List.length_append, hseed, hhalf, Nat.two_mul]
  have htake : (seed ++ half).take seedLength = seed := List.take_left' hseed
  have hdrop : (seed ++ half).drop seedLength = half := List.drop_left' hseed
  simp only [ofBytes, hlength, or_true, dite_true, htake, hdrop, identity, true_and]
  by_cases hpublic : half = S.publicKey seed
  · rw [if_pos hpublic, if_neg (not_not.mpr hpublic.symm)]
  · rw [if_neg hpublic, if_pos (Ne.symm hpublic)]

/-- Octets of any other length are no key. -/
theorem ofBytes_other (h : bs.length ≠ seedLength) (h' : bs.length ≠ 2 * seedLength) :
    ofBytes S bs = .error (.wrongLength bs.length) := by
  rw [ofBytes, dif_neg]
  rintro (hseed | hpair)
  · exact h hseed
  · exact h' hpair

/-- **What octets are read as**: a key, for its seed or for its seed and its
public key; a mismatch of two halves; or nothing, for any other length. -/
theorem ofBytes_cases (S : KeyScheme) (bs : Bytes) :
    (∃ key, ofBytes S bs = .ok key ∧
      (bs = key.seed ∨ bs = key.seed ++ S.publicKey key.seed)) ∨
    (∃ seed half, ofBytes S bs = .error .mismatch ∧ bs = seed ++ half ∧
      seed.length = seedLength ∧ half.length = seedLength ∧ half ≠ S.publicKey seed) ∨
    ofBytes S bs = .error (.wrongLength bs.length) ∧
      bs.length ≠ seedLength ∧ bs.length ≠ 2 * seedLength := by
  by_cases hseed : bs.length = seedLength
  · exact .inl ⟨_, ofBytes_seed hseed, .inl rfl⟩
  by_cases hpair : bs.length = 2 * seedLength
  · have hbs : bs = bs.take seedLength ++ bs.drop seedLength :=
      (List.take_append_drop seedLength bs).symm
    have htake : (bs.take seedLength).length = seedLength := by
      rw [List.length_take, hpair]
      decide
    have hdrop : (bs.drop seedLength).length = seedLength := by
      rw [List.length_drop, hpair]
      decide
    have hread := ofBytes_pair S htake hdrop
    rw [← hbs] at hread
    by_cases hpublic : bs.drop seedLength = S.publicKey (bs.take seedLength)
    · rw [if_pos hpublic] at hread
      exact .inl ⟨_, hread, .inr (by rw [← hpublic]; exact hbs)⟩
    · rw [if_neg hpublic] at hread
      exact .inr (.inl ⟨_, _, hread, hbs, htake, hdrop, hpublic⟩)
  · exact .inr (.inr ⟨ofBytes_other hseed hpair, hseed, hpair⟩)

/-- **Octets are a key exactly if they are its seed, alone or with its public
key behind it.** -/
theorem ofBytes_eq_ok_iff : ofBytes S bs = .ok key ↔
    bs = key.seed ∨ bs = key.seed ++ S.publicKey key.seed := by
  constructor
  · intro h
    rcases ofBytes_cases S bs with ⟨key', hread, hbs⟩ | ⟨_, _, hread, -⟩ | ⟨hread, -⟩ <;>
      cases h.symm.trans hread
    exact hbs
  · rintro (rfl | rfl)
    · exact ofBytes_seed key.length_eq
    · rw [ofBytes_pair S key.length_eq (S.length_publicKey key.seed), if_pos rfl]

theorem ofBytes_eq_mismatch_iff : ofBytes S bs = .error .mismatch ↔
    ∃ seed half : Bytes, bs = seed ++ half ∧ seed.length = seedLength ∧
      half.length = seedLength ∧ half ≠ S.publicKey seed := by
  constructor
  · intro h
    rcases ofBytes_cases S bs with ⟨_, hread, -⟩ | ⟨seed, half, -, hbs⟩ | ⟨hread, -⟩
    · cases h.symm.trans hread
    · exact ⟨seed, half, hbs⟩
    · cases h.symm.trans hread
  · rintro ⟨seed, half, rfl, hseed, hhalf, hpublic⟩
    rw [ofBytes_pair S hseed hhalf, if_neg hpublic]

theorem ofBytes_eq_wrongLength_iff {n : Nat} : ofBytes S bs = .error (.wrongLength n) ↔
    bs.length = n ∧ n ≠ seedLength ∧ n ≠ 2 * seedLength := by
  constructor
  · intro h
    rcases ofBytes_cases S bs with ⟨_, hread, -⟩ | ⟨_, _, hread, -⟩ | ⟨hread, hother⟩ <;>
      cases h.symm.trans hread
    exact ⟨rfl, hother⟩
  · rintro ⟨rfl, hother, hother'⟩
    exact ofBytes_other hother hother'

theorem ofBytes_ne_notHex (bs : Bytes) (cause : Hex.DecodeError) :
    ofBytes S bs ≠ .error (.notHex cause) := by
  intro h
  rcases ofBytes_cases S bs with ⟨_, hread, -⟩ | ⟨_, _, hread, -⟩ | ⟨hread, -⟩ <;>
    cases h.symm.trans hread

/-! ## §2. Texts. -/

/-- A text of octets is read as what they are. -/
theorem parse_of_decode (h : Hex.decode (trim s) = .ok bs) : parse S s = ofBytes S bs := by
  rw [parse, h]

theorem parse_of_not_decode {cause : Hex.DecodeError} (h : Hex.decode (trim s) = .error cause) :
    parse S s = .error (.notHex cause) := by
  rw [parse, h]

/-- What a text of octets is read as, unless it is none. -/
theorem parse_eq_iff {r : Except ParseError PrivateKey} (hr : ∀ cause, r ≠ .error (.notHex cause)) :
    parse S s = r ↔ ∃ bs, (trim s).toLower = Hex.encode bs ∧ ofBytes S bs = r := by
  simp only [← Hex.decode_eq_ok_iff]
  cases h : Hex.decode (trim s) with
  | error cause =>
    rw [parse_of_not_decode h]
    constructor
    · intro heq
      exact absurd heq.symm (hr cause)
    · rintro ⟨bs, hbs, -⟩
      cases hbs
  | ok bs => simp [parse_of_decode h]

/-- **A text is a key exactly if it is the digits of its seed, alone or with
those of its public key behind them.** -/
theorem parse_eq_ok_iff : parse S s = .ok key ↔ (trim s).toLower = Hex.encode key.seed ∨
    (trim s).toLower = Hex.encode (key.seed ++ S.publicKey key.seed) := by
  rw [parse_eq_iff (by simp)]
  simp only [ofBytes_eq_ok_iff]
  constructor
  · rintro ⟨bs, hbs, rfl | rfl⟩
    · exact .inl hbs
    · exact .inr hbs
  · rintro (h | h)
    · exact ⟨_, h, .inl rfl⟩
    · exact ⟨_, h, .inr rfl⟩

/-- **It is no hexadecimal text exactly if it is not an even number of
digits.** -/
theorem parse_eq_notHex_iff : (∃ cause, parse S s = .error (.notHex cause)) ↔
    ¬ ((trim s).length % 2 = 0 ∧ ∀ c ∈ (trim s).toList, isHexDigit c = true) := by
  rw [← Hex.decode_isOk_iff]
  cases h : Hex.decode (trim s) with
  | error cause => simp [parse_of_not_decode h]
  | ok bs => simp [parse_of_decode h, ofBytes_ne_notHex]

theorem parse_eq_wrongLength_iff {n : Nat} : parse S s = .error (.wrongLength n) ↔
    (trim s).length = 2 * n ∧ (∀ c ∈ (trim s).toList, isHexDigit c = true) ∧
      n ≠ seedLength ∧ n ≠ 2 * seedLength := by
  rw [parse_eq_iff (by simp)]
  simp only [ofBytes_eq_wrongLength_iff]
  constructor
  · rintro ⟨bs, hbs, rfl, hother⟩
    obtain ⟨-, hdigits⟩ := Hex.decode_isOk_iff.mp ⟨bs, Hex.decode_eq_ok_iff.mpr hbs⟩
    refine ⟨?_, hdigits, hother⟩
    rw [← Hex.length_toLower, hbs, Hex.length_encode]
  · rintro ⟨hlength, hdigits, hother⟩
    obtain ⟨bs, hbs⟩ := Hex.decode_isOk_iff.mpr ⟨by omega, hdigits⟩
    rw [Hex.decode_eq_ok_iff] at hbs
    have htwice := Hex.length_encode bs
    rw [← hbs, Hex.length_toLower, hlength] at htwice
    exact ⟨bs, hbs, by omega, hother⟩

theorem parse_eq_mismatch_iff : parse S s = .error .mismatch ↔
    ∃ seed half : Bytes, seed.length = seedLength ∧ half.length = seedLength ∧
      (trim s).toLower = Hex.encode (seed ++ half) ∧ half ≠ S.publicKey seed := by
  rw [parse_eq_iff (by simp)]
  simp only [ofBytes_eq_mismatch_iff]
  constructor
  · rintro ⟨bs, hbs, seed, half, rfl, hseed, hhalf, hpublic⟩
    exact ⟨seed, half, hseed, hhalf, hbs, hpublic⟩
  · rintro ⟨seed, half, hseed, hhalf, hbs, hpublic⟩
    exact ⟨_, hbs, seed, half, rfl, hseed, hhalf, hpublic⟩

/-! ## §3. The text that is written. -/

theorem toList_encode (S : KeyScheme) (key : PrivateKey) :
    (key.encode S).toList = (Hex.encode key.seed).toList ++ (key.identity S).text.toList :=
  Hex.toList_encode_append _ _

theorem length_seedText (key : PrivateKey) : (Hex.encode key.seed).toList.length = 64 := by
  rw [String.length_toList, Hex.length_encode, key.length_eq]
  rfl

/-- The first half of what is written is the seed. -/
theorem take_encode (S : KeyScheme) (key : PrivateKey) :
    (key.encode S).toList.take 64 = (Hex.encode key.seed).toList := by
  rw [toList_encode, List.take_left' key.length_seedText]

/-- The second half is the identity. -/
theorem drop_encode (S : KeyScheme) (key : PrivateKey) :
    (key.encode S).toList.drop 64 = (key.identity S).text.toList := by
  rw [toList_encode, List.drop_left' key.length_seedText]

/-- **A key is read back from its text.** -/
theorem parse_encode (S : KeyScheme) (key : PrivateKey) : parse S (key.encode S) = .ok key := by
  rw [parse_eq_ok_iff, encode, Hex.trim_encode, Hex.toLower_encode]
  exact .inr rfl

/-- Keys have one text only if they have one seed. -/
theorem encode_inj {key key' : PrivateKey} :
    key.encode S = key'.encode S ↔ key.seed = key'.seed := by
  constructor
  · intro h
    have htake := take_encode S key
    rw [h, take_encode, String.toList_inj] at htake
    exact (Hex.encode_inj.mp htake).symm
  · intro h
    have hkey : key = key' := by
      cases key
      cases key'
      cases h
      rfl
    rw [hkey]

theorem length_encode (S : KeyScheme) (key : PrivateKey) : (key.encode S).length = 128 := by
  rw [encode, Hex.length_encode, List.length_append, key.length_eq, (key.identity S).length_eq]
  rfl

/-- The digits of the seed are those that the text of a key begins with. -/
theorem take_of_parse (h : parse S s = .ok key) :
    (trim s).toLower.toList.take 64 = (Hex.encode key.seed).toList := by
  rcases parse_eq_ok_iff.mp h with hseed | hpair
  · rw [hseed, List.take_of_length_le (Nat.le_of_eq key.length_seedText)]
  · rw [hpair, Hex.toList_encode_append, List.take_left' key.length_seedText]

/-! ## §4. Texts of keys as a whole. -/

/-- **Private keys are accepted exactly, and in one canonical form**, in every
scheme of keys.  With the white space at the ends of a text trimmed off:

* a text is read as a key exactly if it is the digits, of either case, of its
  seed or of its seed and its public key,
* it is refused as no hexadecimal text exactly if it is not an even number of
  digits; otherwise for its length, if that is neither of the two, or because
  its second half is not the public key of the first,
* every key is read back from what is written for it,
* for whatever text was read, 128 small digits are written that are read as the
  same key.  They begin with the digits that the text begins with, so that they
  depend on the seed alone, and end with the identity. -/
theorem private_key_text (S : KeyScheme) :
    (∀ s key, parse S s = .ok key ↔ (trim s).toLower = Hex.encode key.seed ∨
      (trim s).toLower = Hex.encode (key.seed ++ S.publicKey key.seed)) ∧
    (∀ s, (∃ cause, parse S s = .error (.notHex cause)) ↔
      ¬ ((trim s).length % 2 = 0 ∧ ∀ c ∈ (trim s).toList, isHexDigit c = true)) ∧
    (∀ s n, parse S s = .error (.wrongLength n) ↔
      (trim s).length = 2 * n ∧ (∀ c ∈ (trim s).toList, isHexDigit c = true) ∧
        n ≠ seedLength ∧ n ≠ 2 * seedLength) ∧
    (∀ s, parse S s = .error .mismatch ↔
      ∃ seed half : Bytes, seed.length = seedLength ∧ half.length = seedLength ∧
        (trim s).toLower = Hex.encode (seed ++ half) ∧ half ≠ S.publicKey seed) ∧
    (∀ key : PrivateKey, parse S (key.encode S) = .ok key) ∧
    (∀ s key, parse S s = .ok key →
      (key.encode S).length = 128 ∧ (∀ c ∈ (key.encode S).toList, c ∈ "0123456789abcdef".toList) ∧
      parse S (key.encode S) = .ok key ∧
      (key.encode S).toList.take 64 = (trim s).toLower.toList.take 64 ∧
      (key.encode S).toList.drop 64 = (key.identity S).text.toList) ∧
    (∀ s s' key key', parse S s = .ok key → parse S s' = .ok key' →
      (key.encode S = key'.encode S ↔
        (trim s).toLower.toList.take 64 = (trim s').toLower.toList.take 64)) ∧
    ∀ key key' : PrivateKey, key.encode S = key'.encode S ↔ key.seed = key'.seed := by
  refine ⟨fun s key => parse_eq_ok_iff, fun s => parse_eq_notHex_iff,
    fun s n => parse_eq_wrongLength_iff, fun s => parse_eq_mismatch_iff, parse_encode S, ?_, ?_,
    fun key key' => encode_inj⟩
  · intro s key h
    refine ⟨length_encode S key, fun c => Hex.mem_encode, parse_encode S key, ?_, drop_encode S key⟩
    rw [take_encode, take_of_parse h]
  · intro s s' key key' h h'
    rw [encode_inj, take_of_parse h, take_of_parse h', String.toList_inj, Hex.encode_inj]

/-- The key whose seed counts up from zero. -/
def countingKey : PrivateKey where
  seed := (List.range 32).map UInt8.ofNat
  length_eq := rfl

/-- Its seed in capitals, with white space around it. -/
def seedInCapitals : String :=
  " 000102030405060708090A0B0C0D0E0F101112131415161718191A1B1C1D1E1F\n"

/-- The text that is written for it. -/
def seedAndIdentity : String :=
  "000102030405060708090a0b0c0d0e0f101112131415161718191a1b1c1d1e1f" ++
  "03a107bff3ce10be1d70dd18e74bc09967e4d6309ba50d5f1ddc8664125531b8"

/-- In the scheme of the Edwards curve, both texts are of this key, and the longer
one is written for it. -/
theorem private_key_text_countingKey :
    parse .ed25519 seedInCapitals = .ok countingKey ∧
    parse .ed25519 seedAndIdentity = .ok countingKey ∧
    countingKey.encode .ed25519 = seedAndIdentity ∧
    (countingKey.encode .ed25519).length = 128 ∧
    (countingKey.encode .ed25519).toList.drop 64 =
      (countingKey.identity .ed25519).text.toList ∧
    (trim seedInCapitals).toLower.toList.take 64 =
      (trim seedAndIdentity).toLower.toList.take 64 := by
  have hseed : parse .ed25519 seedInCapitals = .ok countingKey := by decide +kernel
  have hpair : parse .ed25519 seedAndIdentity = .ok countingKey := by decide +kernel
  have hencode : countingKey.encode .ed25519 = seedAndIdentity := by decide +kernel
  obtain ⟨-, -, -, -, -, hwritten, hsame, -⟩ := private_key_text .ed25519
  obtain ⟨hlength, -, -, -, hdrop⟩ := hwritten _ _ hpair
  exact ⟨hseed, hpair, hencode, hlength, hdrop, (hsame _ _ _ _ hseed hpair).mp rfl⟩

end LinkLayer.PrivateKey

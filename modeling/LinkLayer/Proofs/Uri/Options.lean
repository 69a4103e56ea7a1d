/-
  LinkLayer.Proofs.Uri.Options
  ────────────────────────────
  **THE OPTIONS OF A CALL.**

  The parameters of a query set the options of a link: `ed25519` pins a key,
  `metric` sets a cost, all others are not for the link.

    • `Readable` — what parameters have to be for their options to be read,
    • `SetBy` — what options they set: **the keys that are listed and no
      others**, and the cost that is written, or none,
    • `ofPairs_isOk_iff`, `setBy_of_ofPairs` — **the options are read exactly
      as the two say**,
    • `readable_of_perm`, `alike_of_perm` — so neither the order of the
      parameters nor others between them make a difference,
    • `options_exact` — the same for whole URIs: a URI that lists a key is
      never read as one that lets everybody in.
-/
import LinkLayer.Proofs.Text.Firsts
import LinkLayer.Proofs.Uri.Dialled

namespace LinkLayer.LinkOptions

open LinkLayer.Text

variable {pairs others : List (String × String)}

/-! ## §1. What is written in a query. -/

/-- A parameter that sets an option. -/
def IsOption (pair : String × String) : Prop := pair.1 = "ed25519" ∨ pair.1 = "metric"

instance : DecidablePred IsOption := fun pair =>
  inferInstanceAs (Decidable (pair.1 = "ed25519" ∨ pair.1 = "metric"))

/-- A key is listed: some parameter `ed25519` is a text of it. -/
def Listed (pairs : List (String × String)) (k : Identity) : Prop :=
  ∃ text, ("ed25519", text) ∈ pairs ∧ Identity.parse text = .ok k

/-- The options of some parameters can be read: all texts of keys are keys,
and at most one cost is written, as a number up to 255. -/
structure Readable (pairs : List (String × String)) : Prop where
  keys : ∀ text, ("ed25519", text) ∈ pairs → ∃ k, Identity.parse text = .ok k
  once : pairs.countP (·.1 = "metric") ≤ 1
  metric : ∀ text, ("metric", text) ∈ pairs → ∃ n ≤ 255, IsNumeral text.toList n

/-- Some options are those that some parameters set. -/
structure SetBy (o : LinkOptions) (pairs : List (String × String)) : Prop where
  distinct : o.pinned.Nodup
  pinned : ∀ k, k ∈ o.pinned ↔ Listed pairs k
  metric : ∀ text, ("metric", text) ∈ pairs → IsNumeral text.toList o.metric.toNat
  absent : (∀ text, ("metric", text) ∉ pairs) → o.metric = 0

/-- Options that are equal but for the order in which the keys are pinned. -/
def Alike (o o' : LinkOptions) : Prop := o.metric = o'.metric ∧ o.pinned.Perm o'.pinned

/-! ## §2. Keys. -/

/-- The texts of the keys, in their order. -/
def keyTexts (pairs : List (String × String)) : List String :=
  (pairs.filter (·.1 = "ed25519")).map (·.2)

theorem mem_keyTexts {text : String} : text ∈ keyTexts pairs ↔ ("ed25519", text) ∈ pairs := by
  simp [keyTexts]

/-- **The keys are read if every one of them can be**, and in their order. -/
theorem pinnedOf_eq_ok_iff {ks : List Identity} :
    pinnedOf pairs = .ok ks ↔ (keyTexts pairs).map Identity.parse = ks.map .ok := by
  induction pairs generalizing ks with
  | nil => cases ks <;> simp [pinnedOf, keyTexts]
  | cons pair pairs ih =>
    obtain ⟨name, value⟩ := pair
    by_cases hname : name = "ed25519"
    · have htexts : keyTexts ((name, value) :: pairs) = value :: keyTexts pairs := by
        simp [keyTexts, hname]
      rw [htexts, List.map_cons, pinnedOf, if_pos hname]
      cases hvalue : Identity.parse value with
      | error e => cases ks <;> simp
      | ok k =>
        -- The keys behind it are read on their own.
        cases hrest : pinnedOf pairs with
        | error e =>
          constructor
          · intro h
            cases h
          · intro h
            cases ks with
            | nil => cases h
            | cons k' ks =>
              have hread := ih.mpr (List.cons.inj h).2
              rw [hrest] at hread
              cases hread
        | ok rest =>
          have hmap := ih.mp hrest
          rw [hmap]
          cases ks with
          | nil => simp
          | cons k' ks =>
            have hinj : rest.map (Except.ok (ε := Identity.ParseError)) = ks.map .ok ↔
                rest = ks :=
              List.map_inj_right fun a b hab => Except.ok.inj hab
            simp [hinj]
    · have htexts : keyTexts ((name, value) :: pairs) = keyTexts pairs := by
        simp [keyTexts, hname]
      rw [htexts, pinnedOf, if_neg hname]
      exact ih

/-- The keys that were read are those that are listed. -/
theorem mem_pinnedOf {ks : List Identity} (h : pinnedOf pairs = .ok ks) (k : Identity) :
    k ∈ ks ↔ Listed pairs k := by
  have hmap := pinnedOf_eq_ok_iff.mp h
  have hmem : k ∈ ks ↔ Except.ok k ∈ (keyTexts pairs).map Identity.parse := by
    rw [hmap, List.mem_map]
    constructor
    · intro hk
      exact ⟨k, hk, rfl⟩
    · intro hk
      obtain ⟨k', hk', heq⟩ := hk
      exact Except.ok.inj heq ▸ hk'
  rw [hmem, List.mem_map]
  simp only [mem_keyTexts, Listed]

/-- All texts of keys can be read exactly if each of them can. -/
theorem pinnedOf_isOk_iff : (∃ ks, pinnedOf pairs = .ok ks) ↔
    ∀ text, ("ed25519", text) ∈ pairs → ∃ k, Identity.parse text = .ok k := by
  have hall : ∀ texts : List String, (∃ ks : List Identity, texts.map Identity.parse = ks.map .ok) ↔
      ∀ text ∈ texts, ∃ k, Identity.parse text = .ok k := by
    intro texts
    induction texts with
    | nil => exact ⟨fun _ text h => (List.not_mem_nil h).elim, fun _ => ⟨[], rfl⟩⟩
    | cons text texts ih =>
      rw [List.forall_mem_cons, ← ih]
      constructor
      · intro h
        obtain ⟨ks, hks⟩ := h
        cases ks with
        | nil => cases hks
        | cons k ks => exact ⟨⟨k, (List.cons.inj hks).1⟩, ks, (List.cons.inj hks).2⟩
      · intro h
        obtain ⟨⟨k, hk⟩, ks, hks⟩ := h
        exact ⟨k :: ks, by rw [List.map_cons, List.map_cons, hk, hks]⟩
  simp only [pinnedOf_eq_ok_iff, hall, mem_keyTexts]

/-! ## §3. The cost. -/

theorem mem_metricTexts {text : String} : text ∈ metricTexts pairs ↔ ("metric", text) ∈ pairs := by
  simp [metricTexts]

theorem length_metricTexts : (metricTexts pairs).length = pairs.countP (·.1 = "metric") := by
  rw [metricTexts, List.length_map, List.countP_eq_length_filter]

/-- **The cost is read as the one that is written**, or is none where none is
written. -/
theorem metricOf_eq_ok_iff {m : UInt8} : metricOf pairs = .ok m ↔
    (metricTexts pairs = [] ∧ m = 0) ∨
      ∃ text, metricTexts pairs = [text] ∧ IsNumeral text.toList m.toNat := by
  unfold metricOf
  split
  · rename_i hnone
    simp [hnone, eq_comm]
  · rename_i text hone
    have hbound : m.toNat ≤ 255 := Nat.le_of_lt_succ m.toNat_lt
    have hread : IsNumeral text.toList m.toNat ↔
        boundedDecimal? 255 text.toList = some m.toNat := by
      rw [boundedDecimal?_eq_some_iff]
      exact ⟨fun h => ⟨h, hbound⟩, fun h => h.1⟩
    simp only [hone, List.cons_ne_nil, false_and, false_or, List.cons.injEq, and_true,
      exists_eq_left', hread]
    cases hn : boundedDecimal? 255 text.toList with
    | none => simp
    | some n =>
      have hle : n ≤ 255 := (boundedDecimal?_eq_some_iff.mp hn).2
      rw [Except.ok.injEq, Option.some.injEq, ← UInt8.toNat_inj,
        UInt8.toNat_ofNat_of_lt' (Nat.lt_succ_of_le hle)]
  · rename_i hnone hone
    constructor
    · intro h
      cases h
    · intro h
      rcases h with ⟨hempty, -⟩ | ⟨text, htext, -⟩
      · exact absurd hempty hnone
      · exact absurd htext (hone text)

/-- A cost that is written is the one that is read. -/
theorem isNumeral_of_metricOf {m : UInt8} (h : metricOf pairs = .ok m) {text : String}
    (htext : ("metric", text) ∈ pairs) : IsNumeral text.toList m.toNat := by
  rw [← mem_metricTexts] at htext
  rcases metricOf_eq_ok_iff.mp h with ⟨hnone, -⟩ | ⟨only, hone, hread⟩
  · rw [hnone] at htext
    cases htext
  · rw [hone, List.mem_singleton] at htext
    rw [htext]
    exact hread

/-! ## §4. Options as a whole. -/

theorem ofPairs_eq_ok_iff {o : LinkOptions} : ofPairs pairs = .ok o ↔
    ∃ ks, pinnedOf pairs = .ok ks ∧ metricOf pairs = .ok o.metric ∧ o.pinned = firsts ks := by
  unfold ofPairs
  cases pinnedOf pairs with
  | error e => simp
  | ok ks =>
    cases metricOf pairs with
    | error e => simp
    | ok m =>
      obtain ⟨pinned, metric⟩ := o
      simp [eq_comm, and_comm]

/-- **Options are read exactly of readable parameters.** -/
theorem ofPairs_isOk_iff : (∃ o, ofPairs pairs = .ok o) ↔ Readable pairs := by
  constructor
  · intro h
    obtain ⟨o, ho⟩ := h
    obtain ⟨ks, hkeys, hmetric, -⟩ := ofPairs_eq_ok_iff.mp ho
    have hle : o.metric.toNat ≤ 255 := Nat.le_of_lt_succ o.metric.toNat_lt
    refine ⟨pinnedOf_isOk_iff.mp ⟨ks, hkeys⟩, ?_, ?_⟩
    · rw [← length_metricTexts]
      rcases metricOf_eq_ok_iff.mp hmetric with ⟨hnone, -⟩ | ⟨text, hone, -⟩
      · rw [hnone]
        decide
      · rw [hone]
        exact Nat.le_refl 1
    · intro text htext
      exact ⟨o.metric.toNat, hle, isNumeral_of_metricOf hmetric htext⟩
  · intro h
    obtain ⟨ks, hkeys⟩ := pinnedOf_isOk_iff.mpr h.keys
    have hmetric : ∃ m, metricOf pairs = .ok m := by
      have honce := h.once
      rw [← length_metricTexts] at honce
      cases htexts : metricTexts pairs with
      | nil => exact ⟨0, metricOf_eq_ok_iff.mpr (.inl ⟨htexts, rfl⟩)⟩
      | cons text rest =>
        rw [htexts, List.length_cons] at honce
        have hrest : rest = [] := List.length_eq_zero_iff.mp (by omega)
        have hmem : ("metric", text) ∈ pairs := by
          rw [← mem_metricTexts, htexts]
          exact List.mem_cons_self
        obtain ⟨n, hle, hread⟩ := h.metric text hmem
        refine ⟨UInt8.ofNat n, metricOf_eq_ok_iff.mpr (.inr ⟨text, by rw [htexts, hrest], ?_⟩)⟩
        rw [UInt8.toNat_ofNat_of_lt' (Nat.lt_succ_of_le hle)]
        exact hread
    obtain ⟨m, hm⟩ := hmetric
    exact ⟨⟨firsts ks, m⟩, ofPairs_eq_ok_iff.mpr ⟨ks, hkeys, hm, rfl⟩⟩

/-- **The options that are read are those that the parameters set.** -/
theorem setBy_of_ofPairs {o : LinkOptions} (h : ofPairs pairs = .ok o) : o.SetBy pairs := by
  obtain ⟨ks, hkeys, hmetric, hpinned⟩ := ofPairs_eq_ok_iff.mp h
  refine ⟨?_, ?_, ?_, ?_⟩
  · rw [hpinned]
    exact nodup_firsts ks
  · intro k
    rw [hpinned, mem_firsts, mem_pinnedOf hkeys]
  · intro text htext
    exact isNumeral_of_metricOf hmetric htext
  · intro habsent
    rcases metricOf_eq_ok_iff.mp hmetric with ⟨-, hzero⟩ | ⟨only, hone, -⟩
    · exact hzero
    · exact absurd (mem_metricTexts.mp (by rw [hone]; exact List.mem_cons_self)) (habsent only)

/-- **Options that pin a key fail closed**: they admit the keys that are
listed, and nobody else. -/
theorem SetBy.admits_iff {o : LinkOptions} (h : o.SetBy pairs) {k : Identity}
    (hlisted : Listed pairs k) (peer : Identity) : o.admits peer = true ↔ Listed pairs peer := by
  have hne : o.pinned ≠ [] := List.ne_nil_of_mem ((h.pinned k).mpr hlisted)
  simp [admits, hne, h.pinned peer]

/-! ## §5. The order of the parameters. -/

section Order

variable (h : (pairs.filter IsOption).Perm (others.filter IsOption))

include h

theorem mem_iff_of_perm {pair : String × String} (hoption : IsOption pair) :
    pair ∈ pairs ↔ pair ∈ others := by
  have hmem := h.mem_iff (a := pair)
  simpa [hoption] using hmem

/-- Parameters can be read in any order, and with any others between them. -/
theorem readable_of_perm (hread : Readable pairs) : Readable others := by
  have hcount : ∀ list : List (String × String),
      list.countP (·.1 = "metric") = (list.filter IsOption).countP (·.1 = "metric") := by
    intro list
    rw [List.countP_filter]
    congr 1
    funext pair
    by_cases hmetric : pair.1 = "metric" <;> simp [IsOption, hmetric]
  refine ⟨?_, ?_, ?_⟩
  · intro text htext
    exact hread.keys text ((mem_iff_of_perm h (.inl rfl)).mpr htext)
  · rw [hcount, ← h.countP_eq, ← hcount]
    exact hread.once
  · intro text htext
    exact hread.metric text ((mem_iff_of_perm h (.inr rfl)).mpr htext)

theorem listed_iff_of_perm (k : Identity) : Listed pairs k ↔ Listed others k := by
  have hmem : ∀ text, ("ed25519", text) ∈ pairs ↔ ("ed25519", text) ∈ others := fun text =>
    mem_iff_of_perm h (.inl rfl)
  simp only [Listed, hmem]

/-- **The order of the parameters, and others between them, make no
difference to the options.** -/
theorem alike_of_perm {o o' : LinkOptions} (hread : ofPairs pairs = .ok o)
    (hread' : ofPairs others = .ok o') : o.Alike o' := by
  have hset := setBy_of_ofPairs hread
  have hset' := setBy_of_ofPairs hread'
  constructor
  · by_cases hmetric : ∃ text, ("metric", text) ∈ pairs
    · -- Both read the one text that there is, and a text is one number.
      obtain ⟨text, htext⟩ := hmetric
      have hvalue : ∀ {p : LinkOptions}, IsNumeral text.toList p.metric.toNat →
          boundedDecimal? 255 text.toList = some p.metric.toNat := fun {p} hp =>
        boundedDecimal?_eq_some_iff.mpr ⟨hp, Nat.le_of_lt_succ p.metric.toNat_lt⟩
      have hfirst := hvalue (hset.metric text htext)
      have hsecond := hvalue (hset'.metric text ((mem_iff_of_perm h (.inr rfl)).mp htext))
      rw [hfirst, Option.some.injEq] at hsecond
      exact UInt8.toNat_inj.mp hsecond
    · have habsent : ∀ text, ("metric", text) ∉ pairs := fun text htext => hmetric ⟨text, htext⟩
      have habsent' : ∀ text, ("metric", text) ∉ others := fun text htext =>
        habsent text ((mem_iff_of_perm h (.inr rfl)).mpr htext)
      rw [hset.absent habsent, hset'.absent habsent']
  · rw [List.perm_ext_iff_of_nodup hset.distinct hset'.distinct]
    intro k
    rw [hset.pinned, hset'.pinned, listed_iff_of_perm h]

end Order

/-! ## §6. Whole URIs. -/

/-- Whoever is called is called with the options of the query. -/
theorem ofPairs_of_call {u : Uri} {source : Option String} {target : CallTarget}
    (h : CallTarget.ofUri u source = .ok target) :
    ofPairs u.queryPairs = .ok target.options := by
  unfold CallTarget.ofUri at h
  split at h
  · cases h
  split at h
  · cases h
  rename_i hoptions
  split at h
  · cases h
  cases h
  exact hoptions

/-- Where the options cannot be read, nobody is called. -/
theorem call_of_not_readable {s : String} {u : Uri} {kind : Kind} (hu : Uri.parse s = .ok u)
    (hkind : Kind.ofScheme? u.scheme = some kind) (hread : ¬ Readable u.queryPairs)
    (source : Option String) :
    ∃ reason, CallTarget.parse s source = .error (.invalidUri s reason) := by
  cases hoptions : ofPairs u.queryPairs with
  | ok o => exact absurd (ofPairs_isOk_iff.mp ⟨o, hoptions⟩) hread
  | error e =>
    refine ⟨e.message, ?_⟩
    simp only [CallTarget.parse, CallTarget.read, hu, CallTarget.ofUri, hkind, hoptions]
    rfl

/-- **The options of a call are read exactly, and pinning fails closed.**  Of
every URI under the scheme of a link:

* its options are read exactly if every text of a key is one, and at most one
  cost is written, as a number up to 255,
* then the keys that are pinned are those that are listed, and the cost is the
  one that is written, or zero,
* other parameters in the place of these, in any order and with any more that
  are no options, are read exactly if these are, and as the same options,
* where the options cannot be read, the URI is refused, and otherwise they are
  the options of the call,
* if any key is written, a call admits the keys that are listed and nobody
  else. -/
theorem options_exact (s : String) (u : Uri) (kind : Kind) (hu : Uri.parse s = .ok u)
    (hkind : Kind.ofScheme? u.scheme = some kind) :
    ((∃ o, ofPairs u.queryPairs = .ok o) ↔ Readable u.queryPairs) ∧
    (∀ o, ofPairs u.queryPairs = .ok o → o.SetBy u.queryPairs) ∧
    (∀ pairs, (u.queryPairs.filter IsOption).Perm (pairs.filter IsOption) →
      ((∃ o, ofPairs pairs = .ok o) ↔ ∃ o, ofPairs u.queryPairs = .ok o) ∧
      ∀ o o', ofPairs u.queryPairs = .ok o → ofPairs pairs = .ok o' → o.Alike o') ∧
    (∀ source, ¬ Readable u.queryPairs →
      ∃ reason, CallTarget.parse s source = .error (.invalidUri s reason)) ∧
    (∀ source target, CallTarget.parse s source = .ok target →
      ofPairs u.queryPairs = .ok target.options ∧
      ∀ text, ("ed25519", text) ∈ u.queryPairs →
        ∀ peer, target.options.admits peer = true ↔ Listed u.queryPairs peer) := by
  refine ⟨ofPairs_isOk_iff, fun o => setBy_of_ofPairs, ?_, ?_, ?_⟩
  · intro pairs hperm
    refine ⟨?_, fun o o' => alike_of_perm hperm⟩
    rw [ofPairs_isOk_iff, ofPairs_isOk_iff]
    exact ⟨readable_of_perm hperm.symm, readable_of_perm hperm⟩
  · intro source hread
    exact call_of_not_readable hu hkind hread source
  · intro source target hcall
    obtain ⟨u', hu', hparts⟩ := call_eq_ok_iff.mp hcall
    cases hu.symm.trans hu'
    have hoptions := ofPairs_of_call hparts
    refine ⟨hoptions, ?_⟩
    intro text htext
    -- The text of the key was read, so there is a key that is listed.
    obtain ⟨k, hk⟩ := (ofPairs_isOk_iff.mp ⟨_, hoptions⟩).keys text htext
    exact (setBy_of_ofPairs hoptions).admits_iff ⟨text, htext, hk⟩

/-- A query that lists a key in capitals, and writes its cost with a sign and
with zeros in front. -/
def sampleQuery : String :=
  "a=b&ed25519=ABABABABABABABABABABABABABABABABABABABABABABABABABABABABABABABAB&metric=%2B007"

/-- The parts of a URI with this query. -/
def sampleUri : Uri where
  scheme := "tls"
  username := []
  password := []
  host := some (.name ['h'])
  port := some 443
  path := []
  query := some sampleQuery.toList

/-- The key is pinned, and nobody else is admitted. -/
theorem options_exact_sample :
    Uri.parse ("tls://h:443?" ++ sampleQuery) = .ok sampleUri ∧
    Kind.ofScheme? sampleUri.scheme = some .tls ∧
    CallTarget.parse ("tls://h:443?" ++ sampleQuery) none =
      .ok ⟨{ kind := .tls, addr := "h:443" }, ⟨[Identity.replicate 0xAB], 7⟩⟩ ∧
    ∀ peer,
      admits ⟨[Identity.replicate 0xAB], 7⟩ peer = true ↔ Listed sampleUri.queryPairs peer := by
  have hparse : Uri.parse ("tls://h:443?" ++ sampleQuery) = .ok sampleUri := by decide +kernel
  have hkind : Kind.ofScheme? sampleUri.scheme = some .tls := by decide
  have hpairs : sampleUri.queryPairs = [("a", "b"),
      ("ed25519", "ABABABABABABABABABABABABABABABABABABABABABABABABABABABABABABABAB"),
      ("metric", "+007")] := by decide +kernel
  have hoptions : ofPairs sampleUri.queryPairs = .ok ⟨[Identity.replicate 0xAB], 7⟩ := by
    rw [hpairs]
    decide +kernel
  have hcall : CallTarget.parse ("tls://h:443?" ++ sampleQuery) none =
      .ok ⟨{ kind := .tls, addr := "h:443" }, ⟨[Identity.replicate 0xAB], 7⟩⟩ := by
    refine call_eq_ok_iff.mpr ⟨sampleUri, hparse, ?_⟩
    simp only [CallTarget.ofUri, hkind, hoptions]
    decide
  obtain ⟨-, -, -, -, hadmits⟩ := options_exact _ sampleUri .tls hparse hkind
  refine ⟨hparse, hkind, hcall, (hadmits none _ hcall).2
    "ABABABABABABABABABABABABABABABABABABABABABABABABABABABABABABABAB" ?_⟩
  rw [hpairs]
  simp

end LinkLayer.LinkOptions

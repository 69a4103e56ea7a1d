/-
  LinkLayer.Proofs.Uri.Target
  ───────────────────────────
  **WHAT IS DIALLED FOR A URI.**

  Whoever dials takes the text to dial apart again: the server is what stands
  in front of the last colon, without brackets.  So the text has to fit.

    • `mem_normalPath` — a normalised path has no character that would end it,
    • `serverName_hostPort` — **the server of host and port is the host**,
      without the brackets of an IPv6 address,
    • `call_cases` — what a call takes from the parts of a URI,
    • `TargetFits`, `target_fits` — **every target that is read fits its URI.**
-/
import LinkLayer.Proofs.Uri.Dialled
import LinkLayer.Transport.Tcp

namespace LinkLayer

open LinkLayer.Text LinkLayer.Uri

namespace Uri

/-! ## §1. Normalised paths. -/

theorem mem_popSegment {seg : List Char} {done : List (List Char)} (h : seg ∈ popSegment done) :
    seg ∈ done := by
  cases done with
  | nil => cases h
  | cons last before =>
    rw [popSegment] at h
    split at h
    · exact h
    · exact List.mem_cons_of_mem last h

/-- **Normalising makes no segments but empty ones.** -/
theorem mem_walkSegments {seg : List Char} {done segs : List (List Char)}
    (h : seg ∈ walkSegments done segs) : seg = [] ∨ seg ∈ done ∨ seg ∈ segs := by
  induction done, segs using walkSegments.induct with
  | case1 done =>
    rw [walkSegments, List.mem_reverse] at h
    exact .inr (.inl h)
  | case2 done last hdouble =>
    rw [walkSegments, if_pos hdouble, List.mem_reverse, List.mem_cons] at h
    exact h.imp_right fun hseg => .inl (mem_popSegment hseg)
  | case3 done last hdouble hsingle =>
    rw [walkSegments, if_neg hdouble, if_pos hsingle, List.mem_reverse, List.mem_cons] at h
    exact h.imp_right .inl
  | case4 done last hdouble hsingle =>
    rw [walkSegments, if_neg hdouble, if_neg hsingle, List.mem_reverse, List.mem_cons] at h
    rcases h with hseg | hseg
    · exact .inr (.inr (List.mem_singleton.mpr hseg))
    · exact .inr (.inl hseg)
  | case5 done first rest hmore hdouble ih =>
    rw [walkSegments, if_pos hdouble] at h
    · rcases ih h with hseg | hseg | hseg
      · exact .inl hseg
      · exact .inr (.inl (mem_popSegment hseg))
      · exact .inr (.inr (List.mem_cons_of_mem first hseg))
    · exact hmore
  | case6 done first rest hmore hdouble hsingle ih =>
    rw [walkSegments, if_neg hdouble, if_pos hsingle] at h
    · exact (ih h).imp_right (Or.imp_right (List.mem_cons_of_mem first))
    · exact hmore
  | case7 done first rest hmore hdouble hsingle ih =>
    rw [walkSegments, if_neg hdouble, if_neg hsingle] at h
    · rcases ih h with hseg | hseg | hseg
      · exact .inl hseg
      · rcases List.mem_cons.mp hseg with hseg | hseg
        · rw [hseg]
          exact .inr (.inr List.mem_cons_self)
        · exact .inr (.inl hseg)
      · exact .inr (.inr (List.mem_cons_of_mem first hseg))
    · exact hmore

/-- **What a path escapes is not in a normalised path**, unless it is part of
an escape. -/
theorem mem_normalPath {c : Char} {cs : List Char} (h : c ∈ normalPath cs) :
    c = '/' ∨ pathSet c = false ∨ c = '%' ∨ isHexDigit c = true := by
  unfold normalPath at h
  split at h
  · cases h
  · obtain ⟨seg, hseg, hc⟩ := List.mem_flatMap.mp h
    rcases List.mem_cons.mp hc with hc | hc
    · exact .inl hc
    · right
      rcases mem_walkSegments hseg with hempty | hempty | hpart
      · rw [hempty] at hc
        cases hc
      · cases hempty
      · obtain ⟨part, -, hencoded⟩ := List.mem_map.mp hpart
        rw [← hencoded] at hc
        rcases mem_percentEncode hc with ⟨-, hkept⟩ | hescape
        · exact .inl hkept
        · exact .inr hescape

/-- A segment of a normalised path has nothing in it that would end it. -/
theorem firstSegment?_spec {path seg : List Char} (hnormal : ∃ cs, path = normalPath cs)
    (h : firstSegment? path = some seg) :
    seg ≠ [] ∧ (∀ c ∈ seg, c ≠ '/' ∧ c ≠ '?' ∧ c ≠ '#') ∧
      (path.splitOn '/').find? (· ≠ []) = some seg := by
  obtain ⟨cs, hcs⟩ := hnormal
  obtain ⟨hslash, hmem⟩ := not_mem_of_mem_splitAt (List.mem_of_find?_eq_some h)
  have hends : ∀ c ∈ path, c ≠ '?' ∧ c ≠ '#' := by
    intro c hc
    rw [hcs] at hc
    have hcases := mem_normalPath hc
    constructor
    · intro hquery
      rw [hquery] at hcases
      revert hcases
      decide
    · intro hfragment
      rw [hfragment] at hcases
      revert hcases
      decide
  refine ⟨by simpa using List.find?_some h, ?_, ?_⟩
  · intro c hc
    refine ⟨?_, hends c (hmem c hc)⟩
    intro hc'
    exact hslash (hc' ▸ hc)
  · rw [← splitAt_eq_splitOn]
    exact h

/-! ## §2. The server in a text to dial. -/

/-- A host without brackets. -/
def Host.bare : Host → List Char
  | .name text => text
  | .v4 ip => ip.chars
  | .v6 ip => ip.hexChars

theorem dropWhile_eq_of_not_mem {d : Char} {cs : List Char} (h : d ∉ cs) :
    cs.dropWhile (· = d) = cs := by
  cases cs with
  | nil => rfl
  | cons c cs =>
    have hc : c ≠ d := fun hc => h (by simp [hc])
    exact List.dropWhile_cons_of_neg (by simpa using hc)

end Uri

/-- **The server of host and port is the host**, without brackets around
it. -/
theorem serverName_hostPort {host bare : List Char} (port : UInt16)
    (hfree : '[' ∉ bare ∧ ']' ∉ bare) (hhost : host = bare ∨ host = '[' :: bare ++ [']']) :
    serverName s!"{String.ofList host}:{port.toNat}" = String.ofList bare := by
  obtain ⟨hopen, hclose⟩ := hfree
  have hport : ']' ∉ decimalText port.toNat := not_mem_decimalText rfl _
  have hreverse : bare.reverse.dropWhile (· = ']') = bare.reverse :=
    dropWhile_eq_of_not_mem fun hmem => hclose (List.mem_reverse.mp hmem)
  unfold serverName
  simp only [cutLast?_hostPort, if_neg hport]
  rcases hhost with hhost | hhost
  · rw [hhost, dropWhile_eq_of_not_mem hopen, hreverse, List.reverse_reverse]
  · have hbracket : '[' ∉ bare ++ [']'] := by simp [hopen]
    have hstrip : ('[' :: bare ++ [']']).dropWhile (· = '[') = bare ++ [']'] := by
      rw [List.cons_append, List.dropWhile_cons_of_pos (by decide),
        dropWhile_eq_of_not_mem hbracket]
    have hlast : (bare ++ [']']).reverse.dropWhile (· = ']') = bare.reverse := by
      rw [List.reverse_append, List.reverse_singleton, List.singleton_append,
        List.dropWhile_cons_of_pos (by decide), hreverse]
    rw [hhost, hstrip, hlast, List.reverse_reverse]

/-- The host of a URI of a link is the bare one, perhaps in brackets, and has
none itself. -/
theorem bare_of_parse {s : String} {u : Uri} {kind : Kind} {host : Uri.Host}
    (hu : Uri.parse s = .ok u) (hkind : Kind.ofScheme? u.scheme = some kind)
    (hhost : u.host = some host) :
    ('[' ∉ host.bare ∧ ']' ∉ host.bare) ∧
      (host.chars = host.bare ∨ host.chars = '[' :: host.bare ++ [']']) := by
  cases host with
  | name text =>
    have hfree := host_name_free hu (schemeClass_of_ofScheme? hkind) hhost
    refine ⟨⟨?_, ?_⟩, .inl rfl⟩
    · intro hmem
      exact absurd (hfree _ hmem) (by decide)
    · intro hmem
      exact absurd (hfree _ hmem) (by decide)
  | v4 ip =>
    refine ⟨⟨?_, ?_⟩, .inl rfl⟩
    · intro hmem
      rcases Ipv4.mem_chars hmem with h | h <;> revert h <;> decide
    · intro hmem
      rcases Ipv4.mem_chars hmem with h | h <;> revert h <;> decide
  | v6 ip =>
    refine ⟨⟨?_, ?_⟩, .inr rfl⟩
    · intro hmem
      rcases Ipv6.mem_hexChars hmem with h | h <;> revert h <;> decide
    · intro hmem
      rcases Ipv6.mem_hexChars hmem with h | h <;> revert h <;> decide

/-! ## §3. Calls. -/

/-- **What a call takes from the parts of a URI**: directly host and port, and
through a proxy those for the proxy and a segment of the path for the
target. -/
theorem call_cases {u : Uri} {source : Option String} {target : CallTarget}
    (h : CallTarget.ofUri u source = .ok target) :
    ∃ addr, CallTarget.authority u = .ok addr ∧
      target.dial.sourceInterface = CallTarget.interfaceOf source ∧ target.dial.timeout = none ∧
      ((target.dial.kind ≠ .socks ∧ target.dial.addr = addr ∧ target.dial.proxy = none) ∨
        (target.dial.kind = .socks ∧
          target.dial.proxy = some ⟨addr, CallTarget.credentials u⟩ ∧
          ∃ seg, firstSegment? u.path = some seg ∧ target.dial.addr = String.ofList seg)) := by
  unfold CallTarget.ofUri at h
  split at h
  · cases h
  rename_i kind hkind
  split at h
  · cases h
  split at h
  · cases h
  rename_i dial hdial
  cases h
  unfold CallTarget.dialOf at hdial
  split at hdial
  · split at hdial
    · cases hdial
    rename_i seg hseg
    split at hdial
    · cases hdial
    rename_i addr haddr
    cases hdial
    exact ⟨addr, haddr, rfl, rfl, .inr ⟨rfl, rfl, seg, hseg, rfl⟩⟩
  · rename_i hdirect
    split at hdial
    · cases hdial
    rename_i addr haddr
    cases hdial
    exact ⟨addr, haddr, rfl, rfl, .inl ⟨hdirect, rfl, rfl⟩⟩

/-- A target fits a URI with a host and a port, and the interface that was
asked for. -/
structure TargetFits (u : Uri) (host : Uri.Host) (port : UInt16) (source : Option String)
    (d : DialTarget) : Prop where
  kind : Kind.ofScheme? u.scheme = some d.kind
  host_ne : host.chars ≠ []
  /-- There is a proxy exactly for the kind that needs one. -/
  proxy_iff : d.proxy.isSome = true ↔ d.kind = .socks
  /-- Host and port are those of the peer, or else of the proxy. -/
  direct : d.kind ≠ .socks → d.addr = s!"{String.ofList host.chars}:{port.toNat}"
  proxied : ∀ proxy, d.proxy = some proxy →
    proxy.addr = s!"{String.ofList host.chars}:{port.toNat}"
  /-- The target behind a proxy is the first segment of the path that is not
  empty, and has nothing in it that would end it. -/
  target : d.kind = .socks → d.addr ≠ "" ∧
    (∀ c ∈ d.addr.toList, c ≠ '/' ∧ c ≠ '?' ∧ c ≠ '#') ∧
    (∃ path, u.path = normalPath path) ∧
    (u.path.splitOn '/').find? (· ≠ []) = some d.addr.toList
  auth_iff : (d.proxy.bind (·.auth)).isSome = true ↔ d.kind = .socks ∧ u.username ≠ []
  source_iff : ∀ name, d.sourceInterface = some name ↔ source = some name ∧ name ≠ ""
  timeout : d.timeout = none
  /-- Whoever dials finds the host again, without its brackets. -/
  server : d.kind ≠ .socks → serverName d.addr = String.ofList host.bare

theorem interfaceOf_eq_some_iff {source : Option String} {name : String} :
    CallTarget.interfaceOf source = some name ↔ source = some name ∧ name ≠ "" := by
  simp [CallTarget.interfaceOf, Option.filter_eq_some_iff]

theorem credentials_isSome_iff {u : Uri} :
    (CallTarget.credentials u).isSome = true ↔ u.username ≠ [] := by
  unfold CallTarget.credentials
  split
  · rename_i hnone
    simp [hnone]
  · rename_i hsome
    simp [hsome]

/-- **Every target that is read fits its URI**, whatever the text and the
interface that is asked for. -/
theorem target_fits (s : String) (source : Option String) (target : CallTarget)
    (h : CallTarget.parse s source = .ok target) :
    ∃ u host port, Uri.parse s = .ok u ∧ u.host = some host ∧ u.port = some port ∧
      TargetFits u host port source target.dial := by
  obtain ⟨u, hu, hcall⟩ := call_eq_ok_iff.mp h
  have hkind := kind_of_call hcall
  obtain ⟨addr, haddr, hsource, htimeout, hcases⟩ := call_cases hcall
  obtain ⟨host, port, hhost, hport, hwritten⟩ := authority_eq_ok_iff.mp haddr
  -- The scheme has no rules of its own, so the host is an opaque one and the path is normalised.
  obtain ⟨scheme, cs, hparts⟩ := parsePlain_of_parse hu (schemeClass_of_ofScheme? hkind)
  obtain ⟨-, hempty, hnormal⟩ := parts_of_parsePlain hparts hhost
  obtain ⟨hfree, hbare⟩ := bare_of_parse hu hkind hhost
  have hne : host.chars ≠ [] := by
    cases host with
    | name text => simpa [Host.isEmpty, Uri.Host.chars] using hempty
    | v4 ip => simp [Uri.Host.chars, Ipv4.chars]
    | v6 ip => simp [Uri.Host.chars]
  refine ⟨u, host, port, hu, hhost, hport, ?_⟩
  rcases hcases with ⟨hdirect, hdial, hproxy⟩ | ⟨hsocks, hproxy, seg, hseg, hdial⟩
  · refine ⟨hkind, hne, ?_, ?_, ?_, ?_, ?_, ?_, htimeout, ?_⟩
    · simp [hproxy, hdirect]
    · intro _
      rw [hdial, hwritten]
    · intro proxy hsome
      rw [hproxy] at hsome
      cases hsome
    · intro hsocks
      exact absurd hsocks hdirect
    · simp [hproxy, hdirect]
    · intro name
      rw [hsource, interfaceOf_eq_some_iff]
    · intro _
      rw [hdial, hwritten, serverName_hostPort port hfree hbare]
  · obtain ⟨hsegne, hchars, hfind⟩ := firstSegment?_spec hnormal hseg
    refine ⟨hkind, hne, ?_, ?_, ?_, ?_, ?_, ?_, htimeout, ?_⟩
    · simp [hproxy, hsocks]
    · intro hdirect
      exact absurd hsocks hdirect
    · intro proxy hsome
      rw [hproxy] at hsome
      cases hsome
      exact hwritten
    · intro _
      rw [hdial, String.toList_ofList]
      refine ⟨?_, hchars, hnormal, hfind⟩
      intro hnil
      exact hsegne (by simpa using congrArg String.toList hnil)
    · rw [hproxy, Option.bind_some, credentials_isSome_iff]
      simp [hsocks]
    · intro name
      rw [hsource, interfaceOf_eq_some_iff]
    · intro hdirect
      exact absurd hsocks hdirect

/-- An IPv6 address with zeros in front of the port, and a target behind a
proxy, after an empty segment and one that is taken back. -/
theorem target_fits_samples :
    (CallTarget.parse "tls://[2001:DB8::1]:0443" none =
        .ok ⟨{ kind := .tls, addr := "[2001:db8::1]:443" }, {}⟩ ∧
      serverName "[2001:db8::1]:443" = "2001:db8::1" ∧
      ∃ u host port, Uri.parse "tls://[2001:DB8::1]:0443" = .ok u ∧
        u.host = some host ∧ u.port = some port ∧
        TargetFits u host port none { kind := .tls, addr := "[2001:db8::1]:443" }) ∧
    (CallTarget.parse "socks://me@proxy:1080//x/../h:1" (some "eth0") =
        .ok ⟨{ kind := .socks, addr := "h:1", proxy := some ⟨"proxy:1080", some ⟨"me", ""⟩⟩,
               sourceInterface := some "eth0" }, {}⟩ ∧
      ∃ u host port, Uri.parse "socks://me@proxy:1080//x/../h:1" = .ok u ∧
        u.host = some host ∧ u.port = some port ∧
        TargetFits u host port (some "eth0")
          { kind := .socks, addr := "h:1", proxy := some ⟨"proxy:1080", some ⟨"me", ""⟩⟩,
            sourceInterface := some "eth0" }) := by
  have hdirect : CallTarget.parse "tls://[2001:DB8::1]:0443" none =
      .ok ⟨{ kind := .tls, addr := "[2001:db8::1]:443" }, {}⟩ := by decide +kernel
  have hproxied : CallTarget.parse "socks://me@proxy:1080//x/../h:1" (some "eth0") =
      .ok ⟨{ kind := .socks, addr := "h:1", proxy := some ⟨"proxy:1080", some ⟨"me", ""⟩⟩,
             sourceInterface := some "eth0" }, {}⟩ := by decide +kernel
  refine ⟨⟨hdirect, by decide +kernel, ?_⟩, hproxied, ?_⟩
  · exact target_fits _ none _ hdirect
  · exact target_fits _ (some "eth0") _ hproxied

end LinkLayer

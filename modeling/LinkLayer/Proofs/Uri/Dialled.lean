/-
  LinkLayer.Proofs.Uri.Dialled
  ────────────────────────────
  **A PLACE TO LISTEN IS A PLACE TO CALL.**

  Listeners and peers are written alike, and read by two readers: one wants
  an address and takes it from the parts of the URI, the other wants the text
  that is dialled and puts host and port together.  `listen_iff_call` says
  that they agree: what one can listen on is what the other calls by an
  address and not by a name.

  A host of either reader is a host of the URI, and both look at it in one of
  three ways (`hostAddress_eq_ok_iff`).  The text that is dialled can be taken
  apart again, since no port has a colon (`hostPort_inj`).
-/
import LinkLayer.Call
import LinkLayer.Listen
import LinkLayer.Proofs.Net.Ip
import LinkLayer.Proofs.Uri.Authority

namespace LinkLayer

open LinkLayer.Text LinkLayer.Uri

/-! ## §1. Hosts that are addresses. -/

/-- A host that is written as an address: a strict dotted quad, or any text of
an IPv6 address in brackets. -/
def Ip.Literal (host : List Char) : Ip → Prop
  | .v4 ip => Ipv4.parse? host = some ip
  | .v6 ip => ∃ text, host = '[' :: text ++ [']'] ∧ Ipv6.parse? text = some ip

/-- A dotted quad has nothing in it but digits and dots. -/
theorem not_mem_quad {host : List Char} {ip : Ipv4} (h : Ipv4.parse? host = some ip) {c : Char}
    (hdigit : isDigit c = false) (hdot : c ≠ '.') : c ∉ host := by
  rw [Ipv4.parse?_eq_some_iff.mp h, Ipv4.chars]
  simp [not_mem_decimalText hdigit, hdot]

theorem not_literal_v6 {host : List Char} (h : '[' ∉ host) (ip : Ipv6) :
    ¬ Ip.Literal host (.v6 ip) := by
  rintro ⟨text, rfl, -⟩
  simp at h

/-- **The address of a host is the one that is written there.** -/
theorem hostAddress_eq_ok_iff {host : Uri.Host}
    (hfree : ∀ text, host = .name text → ':' ∉ text ∧ '[' ∉ text) (ip : Ip) :
    ListenSpec.hostAddress (some host) = .ok ip ↔ ip.Literal host.chars := by
  cases host with
  | name text =>
    -- Without colons a name is no IPv6 address, and without brackets none is written there.
    obtain ⟨hcolon, hbracket⟩ := hfree text rfl
    simp only [ListenSpec.hostAddress, Ip.parse?, Ipv6.parse?_eq_none hcolon, Uri.Host.chars]
    cases ip with
    | v4 ip => cases hv4 : Ipv4.parse? text <;> simp [Ip.Literal, hv4]
    | v6 ip => cases Ipv4.parse? text <;> simp [not_literal_v6 hbracket]
  | v4 a =>
    have ha : Ipv4.parse? a.chars = some a := Ipv4.parse?_eq_some_iff.mpr rfl
    cases ip with
    | v4 ip => simp [ListenSpec.hostAddress, Ip.Literal, Uri.Host.chars, ha]
    | v6 ip =>
      have hbracket : '[' ∉ a.chars := not_mem_quad ha rfl (by decide)
      simp [ListenSpec.hostAddress, Uri.Host.chars, not_literal_v6 hbracket]
  | v6 a =>
    cases ip with
    | v4 ip =>
      have hquad : Ipv4.parse? (Uri.Host.v6 a).chars ≠ some ip := fun hv4 =>
        not_mem_quad hv4 (c := '[') rfl (by decide) (by simp [Uri.Host.chars])
      simp [ListenSpec.hostAddress, Ip.Literal, hquad]
    | v6 ip =>
      simp only [ListenSpec.hostAddress, Ip.Literal, Uri.Host.chars, Except.ok.injEq, Ip.v6.injEq]
      constructor
      · rintro rfl
        exact ⟨a.hexChars, rfl, a.parse?_hexChars⟩
      · rintro ⟨rest, hrest, hip⟩
        have hrest : rest = a.hexChars := by simpa using hrest.symm
        rw [hrest, a.parse?_hexChars] at hip
        exact Option.some.inj hip

/-! ## §2. Host and port. -/

/-- The last colon of a text to dial is the one in front of the port. -/
theorem cutLast?_hostPort (host : List Char) (port : UInt16) :
    cutLast? ':' (s!"{String.ofList host}:{port.toNat}").toList =
      some (host, decimalText port.toNat) := by
  have hport : ':' ∉ Nat.toDigits 10 port.toNat := not_mem_decimalText rfl _
  simpa [toString, decimalText] using cutLast?_append host hport

/-- **Host and port of a text to dial can be told apart again.** -/
theorem hostPort_inj {host other : List Char} {port otherPort : UInt16}
    (h : s!"{String.ofList host}:{port.toNat}" = s!"{String.ofList other}:{otherPort.toNat}") :
    host = other ∧ port = otherPort := by
  have hparts := cutLast?_hostPort host port
  rw [h, cutLast?_hostPort, Option.some.injEq, Prod.mk.injEq] at hparts
  refine ⟨hparts.1.symm, UInt16.toNat_inj.mp ?_⟩
  rw [← decimalValue_toDigits port.toNat, ← decimalValue_toDigits otherPort.toNat]
  exact congrArg decimalValue hparts.2.symm

/-- The text to dial is host and port of the URI. -/
theorem authority_eq_ok_iff {u : Uri} {addr : String} :
    CallTarget.authority u = .ok addr ↔
      ∃ host port, u.host = some host ∧ u.port = some port ∧
        addr = s!"{String.ofList host.chars}:{port.toNat}" := by
  unfold CallTarget.authority
  cases u.host with
  | none => simp
  | some host =>
    cases u.port with
    | none => simp
    | some port => simp [eq_comm]

/-! ## §3. What the two readers take from a URI. -/

theorem scheme_of_ofScheme? {s : String} {kind : Kind} (h : Kind.ofScheme? s = some kind) :
    s = kind.scheme := by
  unfold Kind.ofScheme? at h
  split at h
  · cases h
    assumption
  split at h
  · cases h
    assumption
  split at h
  · cases h
    assumption
  · cases h

/-- The schemes of links have no rules of their own. -/
theorem schemeClass_of_ofScheme? {s : String} {kind : Kind} (h : Kind.ofScheme? s = some kind) :
    schemeClass s = .plain := by
  rw [scheme_of_ofScheme? h]
  exact schemeClass_scheme kind

theorem listen_eq_ok_iff {s : String} {spec : ListenSpec} :
    ListenSpec.parse s = .ok spec ↔ ∃ u, Uri.parse s = .ok u ∧ ListenSpec.ofUri u = .ok spec := by
  unfold ListenSpec.parse ListenSpec.read
  cases Uri.parse s with
  | error e => simp
  | ok u => cases h : ListenSpec.ofUri u <;> simp [h]

theorem call_eq_ok_iff {s : String} {source : Option String} {target : CallTarget} :
    CallTarget.parse s source = .ok target ↔
      ∃ u, Uri.parse s = .ok u ∧ CallTarget.ofUri u source = .ok target := by
  unfold CallTarget.parse CallTarget.read
  cases Uri.parse s with
  | error e => simp
  | ok u => cases h : CallTarget.ofUri u source <;> simp [h]

/-- A place to listen is a kind, an address and a port, and no proxy. -/
theorem listen_ofUri_eq_ok_iff {u : Uri} {kind : Kind} {ip : Ip} {port : UInt16} :
    ListenSpec.ofUri u = .ok ⟨kind, ⟨ip, port⟩⟩ ↔
      Kind.ofScheme? u.scheme = some kind ∧ kind ≠ .socks ∧
        ListenSpec.hostAddress u.host = .ok ip ∧ u.port = some port := by
  unfold ListenSpec.ofUri
  cases hkind : Kind.ofScheme? u.scheme with
  | none => simp
  | some k =>
    cases k <;> cases ListenSpec.hostAddress u.host <;> cases u.port <;> grind

/-- Without options in the query there are none. -/
theorem ofPairs_of_other {pairs : List (String × String)}
    (h : ∀ pair ∈ pairs, pair.1 ≠ "ed25519" ∧ pair.1 ≠ "metric") :
    LinkOptions.ofPairs pairs = .ok {} := by
  have hpinned : LinkOptions.pinnedOf pairs = .ok [] := by
    induction pairs with
    | nil => rfl
    | cons pair pairs ih =>
      rw [LinkOptions.pinnedOf, if_neg (h pair List.mem_cons_self).1,
        ih fun p hp => h p (List.mem_cons_of_mem pair hp)]
  have hmetric : LinkOptions.metricTexts pairs = [] := by
    rw [LinkOptions.metricTexts, List.map_eq_nil_iff, List.filter_eq_nil_iff]
    exact fun pair hpair => by simpa using (h pair hpair).2
  simp [LinkOptions.ofPairs, LinkOptions.metricOf, hpinned, hmetric, firsts]

/-- The kind of a peer is that of the scheme. -/
theorem kind_of_call {u : Uri} {source : Option String} {target : CallTarget}
    (h : CallTarget.ofUri u source = .ok target) :
    Kind.ofScheme? u.scheme = some target.dial.kind := by
  unfold CallTarget.ofUri at h
  split at h
  · cases h
  rename_i kind hkind
  split at h
  · cases h
  split at h
  · cases h
  rename_i dial hdial
  cases h
  rw [hkind, Option.some.injEq]
  unfold CallTarget.dialOf at hdial
  repeat' (split at hdial <;> try cases hdial)
  all_goals rfl

/-- **A peer without a proxy is host and port**, and nothing else of the URI
unless the query has options. -/
theorem call_ofUri_eq_ok_iff {u : Uri} {source : Option String} {target : CallTarget} {kind : Kind}
    (hquery : ∀ pair ∈ u.queryPairs, pair.1 ≠ "ed25519" ∧ pair.1 ≠ "metric")
    (hkind : Kind.ofScheme? u.scheme = some kind) (hdirect : kind ≠ .socks) :
    CallTarget.ofUri u source = .ok target ↔
      ∃ host port, u.host = some host ∧ u.port = some port ∧
        target = ⟨{ kind, addr := s!"{String.ofList host.chars}:{port.toNat}",
                    sourceInterface := CallTarget.interfaceOf source }, {}⟩ := by
  have hdial : CallTarget.dialOf kind u =
      (CallTarget.authority u).map fun addr => { kind, addr } := by
    cases kind with
    | tcp => unfold CallTarget.dialOf; cases CallTarget.authority u <;> rfl
    | tls => unfold CallTarget.dialOf; cases CallTarget.authority u <;> rfl
    | socks => exact absurd rfl hdirect
  have haddr : CallTarget.ofUri u source = .ok target ↔ ∃ addr, CallTarget.authority u = .ok addr ∧
      target = ⟨{ kind, addr, sourceInterface := CallTarget.interfaceOf source }, {}⟩ := by
    simp only [CallTarget.ofUri, hkind, ofPairs_of_other hquery, hdial]
    cases CallTarget.authority u with
    | error e => simp [Except.map]
    | ok addr => simp [Except.map, eq_comm]
  rw [haddr]
  constructor
  · rintro ⟨addr, hauthority, rfl⟩
    obtain ⟨host, port, hhost, hport, rfl⟩ := authority_eq_ok_iff.mp hauthority
    exact ⟨host, port, hhost, hport, rfl⟩
  · rintro ⟨host, port, hhost, hport, rfl⟩
    exact ⟨_, authority_eq_ok_iff.mpr ⟨host, port, hhost, hport, rfl⟩, rfl⟩

/-! ## §4. The two readers agree. -/

/-- A text to dial that stands for an endpoint: an IPv4 address as it is
written, and any text of an IPv6 address in brackets. -/
def Endpoint.DialledAs (e : Endpoint) (addr : String) : Prop :=
  match e.ip with
  | .v4 ip => addr = s!"{ip.text}:{e.port.toNat}"
  | .v6 ip => ∃ text, addr = s!"[{String.ofList text}]:{e.port.toNat}" ∧ Ipv6.parse? text = some ip

theorem dialledAs_of_literal {host : List Char} {ip : Ip} {port : UInt16}
    (h : ip.Literal host) :
    Endpoint.DialledAs ⟨ip, port⟩ s!"{String.ofList host}:{port.toNat}" := by
  cases ip with
  | v4 a =>
    rw [Ipv4.parse?_eq_some_iff.mp h]
    rfl
  | v6 a =>
    obtain ⟨text, rfl, htext⟩ := h
    refine ⟨text, ?_, htext⟩
    rw [← String.toList_inj]
    simp [toString]

/-- The address that a listener takes is the one in the text to dial. -/
theorem hostAddress_of_parse {s : String} {u : Uri} {kind : Kind} {host : Uri.Host}
    (hu : Uri.parse s = .ok u) (hkind : Kind.ofScheme? u.scheme = some kind)
    (hhost : u.host = some host) (ip : Ip) :
    ListenSpec.hostAddress u.host = .ok ip ↔ ip.Literal host.chars := by
  rw [hhost]
  refine hostAddress_eq_ok_iff ?_ ip
  rintro text rfl
  have hfree := host_name_free hu (schemeClass_of_ofScheme? hkind) hhost
  exact ⟨fun h => absurd (hfree _ h) (by decide), fun h => absurd (hfree _ h) (by decide)⟩

/-- The two readers agree on the parts of a URI. -/
theorem listen_iff_call_parts {s : String} {u : Uri} (hu : Uri.parse s = .ok u)
    (hquery : ∀ pair ∈ u.queryPairs, pair.1 ≠ "ed25519" ∧ pair.1 ≠ "metric")
    (kind : Kind) (ip : Ip) (port : UInt16) :
    ListenSpec.ofUri u = .ok ⟨kind, ⟨ip, port⟩⟩ ↔
      ∃ target host, CallTarget.ofUri u none = .ok target ∧
        target.dial.kind = kind ∧ kind ≠ .socks ∧
        target.dial.addr = s!"{String.ofList host}:{port.toNat}" ∧ ip.Literal host := by
  rw [listen_ofUri_eq_ok_iff]
  constructor
  · rintro ⟨hkind, hdirect, hip, hport⟩
    cases hhost : u.host with
    | none =>
      rw [hhost] at hip
      cases hip
    | some host =>
      exact ⟨_, host.chars,
        (call_ofUri_eq_ok_iff hquery hkind hdirect).mpr ⟨host, port, hhost, hport, rfl⟩,
        rfl, hdirect, rfl, (hostAddress_of_parse hu hkind hhost ip).mp hip⟩
  · rintro ⟨target, written, hcall, rfl, hdirect, haddr, hip⟩
    have hkind := kind_of_call hcall
    obtain ⟨host, port', hhost, hport, htarget⟩ :=
      (call_ofUri_eq_ok_iff hquery hkind hdirect).mp hcall
    rw [htarget] at haddr
    obtain ⟨rfl, rfl⟩ := hostPort_inj haddr
    exact ⟨hkind, hdirect, (hostAddress_of_parse hu hkind hhost ip).mpr hip, hport⟩

/-- **A place to listen is a place to call.**  Of every text without options
in its query:

* it is read as a place to listen, of some kind, at some address and port,
  exactly if it is read as a peer of that kind, not through a proxy, whose
  text to dial is that port behind a host written as that address,
* the peer then has no proxy, and the text to dial is the address as it is
  written, in brackets and in some spelling of it for IPv6, and the port. -/
theorem listen_iff_call (s : String)
    (hquery : ∀ u, Uri.parse s = .ok u →
      ∀ pair ∈ u.queryPairs, pair.1 ≠ "ed25519" ∧ pair.1 ≠ "metric") :
    (∀ kind ip port, ListenSpec.parse s = .ok ⟨kind, ⟨ip, port⟩⟩ ↔
      ∃ target host, CallTarget.parse s none = .ok target ∧
        target.dial.kind = kind ∧ kind ≠ .socks ∧
        target.dial.addr = s!"{String.ofList host}:{port.toNat}" ∧ ip.Literal host) ∧
    (∀ spec target, ListenSpec.parse s = .ok spec → CallTarget.parse s none = .ok target →
      target.dial.kind = spec.kind ∧ target.dial.proxy = none ∧
        spec.endpoint.DialledAs target.dial.addr) := by
  have hagree : ∀ u, Uri.parse s = .ok u → ∀ kind ip port,
      ListenSpec.parse s = .ok ⟨kind, ⟨ip, port⟩⟩ ↔
        ∃ target host, CallTarget.parse s none = .ok target ∧
          target.dial.kind = kind ∧ kind ≠ .socks ∧
          target.dial.addr = s!"{String.ofList host}:{port.toNat}" ∧ ip.Literal host := by
    intro u hu kind ip port
    simpa [listen_eq_ok_iff, call_eq_ok_iff, hu] using
      listen_iff_call_parts hu (hquery u hu) kind ip port
  constructor
  · cases hu : Uri.parse s with
    | error e => simp [listen_eq_ok_iff, call_eq_ok_iff, hu]
    | ok u => exact hagree u hu
  · rintro ⟨kind, ip, port⟩ target hlisten hcall
    obtain ⟨u, hu, hparts⟩ := call_eq_ok_iff.mp hcall
    obtain ⟨_, host, hcall', rfl, hdirect, haddr, hip⟩ := (hagree u hu kind ip port).mp hlisten
    cases hcall.symm.trans hcall'
    obtain ⟨_, _, _, _, htarget⟩ :=
      (call_ofUri_eq_ok_iff (hquery u hu) (kind_of_call hparts) hdirect).mp hparts
    refine ⟨rfl, by rw [htarget], ?_⟩
    rw [haddr]
    exact dialledAs_of_literal hip

/-- An IPv6 address in an odd spelling, with all the parts that a URI can
have: the listener is there, and is called by the spelling of its own. -/
theorem listen_iff_call_spelling :
    (∀ u, Uri.parse "tcp://guest@[2001:DB8:0:0::7]:9001/p?via=1#end" = .ok u →
      ∀ pair ∈ u.queryPairs, pair.1 ≠ "ed25519" ∧ pair.1 ≠ "metric") ∧
    ListenSpec.parse "tcp://guest@[2001:DB8:0:0::7]:9001/p?via=1#end" =
      .ok ⟨.tcp, ⟨.v6 ⟨[0x2001, 0xdb8, 0, 0, 0, 0, 0, 7], rfl⟩, 9001⟩⟩ ∧
    ∃ target, CallTarget.parse "tcp://guest@[2001:DB8:0:0::7]:9001/p?via=1#end" none = .ok target ∧
      target.dial.kind = .tcp ∧ target.dial.proxy = none ∧
      Endpoint.DialledAs ⟨.v6 ⟨[0x2001, 0xdb8, 0, 0, 0, 0, 0, 7], rfl⟩, 9001⟩ target.dial.addr := by
  have hparts : (Uri.parse "tcp://guest@[2001:DB8:0:0::7]:9001/p?via=1#end").map queryPairs =
      .ok [("via", "1")] := by decide +kernel
  have hquery : ∀ u, Uri.parse "tcp://guest@[2001:DB8:0:0::7]:9001/p?via=1#end" = .ok u →
      ∀ pair ∈ u.queryPairs, pair.1 ≠ "ed25519" ∧ pair.1 ≠ "metric" := by
    intro u hu
    rw [hu, Except.map, Except.ok.injEq] at hparts
    rw [hparts]
    decide
  have hlisten : ListenSpec.parse "tcp://guest@[2001:DB8:0:0::7]:9001/p?via=1#end" =
      .ok ⟨.tcp, ⟨.v6 ⟨[0x2001, 0xdb8, 0, 0, 0, 0, 0, 7], rfl⟩, 9001⟩⟩ := by decide +kernel
  obtain ⟨hagree, htext⟩ := listen_iff_call _ hquery
  obtain ⟨target, -, hcall, -⟩ := (hagree _ _ _).mp hlisten
  exact ⟨hquery, hlisten, target, hcall, htext _ _ hlisten hcall⟩

end LinkLayer

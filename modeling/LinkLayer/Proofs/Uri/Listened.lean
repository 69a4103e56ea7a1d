/-
  LinkLayer.Proofs.Uri.Listened
  ─────────────────────────────
  **A PLACE TO LISTEN, WRITTEN AND READ.**

  The text of a place is a URI: its kind is the scheme, its address the host
  and its port the port.  An address is written with as few characters as the
  rules of its family allow, and read by a grammar that knows many spellings.

    • `Ip.hostText` — the address of either family is a host, as it is written,
    • `ListenSpec.parse_text` — **a place is read back from its text**,
    • `ListenSpec.text_inj` — and so no two places have one text,
    • `listen_text_roundtrip` — writing what was read, and reading it again,
      changes nothing.
-/
import LinkLayer.Proofs.Uri.Dialled
import LinkLayer.Proofs.Uri.Server

namespace LinkLayer

open LinkLayer.Text LinkLayer.Uri

/-! ## §1. Addresses as hosts. -/

/-- An address as it stands in front of a port: in brackets for IPv6. -/
def Ip.hostChars : Ip → List Char
  | .v4 ip => ip.chars
  | .v6 ip => '[' :: ip.chars ++ [']']

/-- What an address is read as in the place of a host.  The schemes of links
do not know IPv4 addresses, so a dotted quad is a name to them. -/
def Ip.asHost : Ip → Uri.Host
  | .v4 ip => .name ip.chars
  | .v6 ip => .v6 ip

/-- **An address is a host**, as it is written. -/
theorem Ip.hostText (ip : Ip) : HostText ip.hostChars ip.asHost := by
  cases ip with
  | v4 ip =>
    have hne : ip.chars ≠ [] := by simp [Ipv4.chars]
    have hplain : ∀ c ∈ ip.chars, isPlain c = true := by
      intro c hc
      rcases Ipv4.mem_chars hc with hdigit | hdot
      · exact isPlain_of_letter_or_digit (by rw [hdigit, Bool.or_true])
      · rw [hdot]
        decide
    exact HostText.of_name hne hplain
  | v6 ip => exact HostText.of_ipv6 ip

/-- The host that an address is read as stands for that address. -/
theorem hostAddress_asHost (ip : Ip) : ListenSpec.hostAddress (some ip.asHost) = .ok ip := by
  cases ip with
  | v4 ip =>
    have hread : Ipv4.parse? ip.chars = some ip := Ipv4.parse?_eq_some_iff.mpr rfl
    simp [Ip.asHost, ListenSpec.hostAddress, Ip.parse?, hread]
  | v6 ip => rfl

/-- The text of an endpoint is its host and its port. -/
theorem Endpoint.toList_text (e : Endpoint) :
    e.text.toList = e.ip.hostChars ++ ':' :: decimalText e.port.toNat := by
  cases e with
  | mk ip port =>
    cases ip with
    | v4 ip => simp [Endpoint.text, Ip.hostChars, Ipv4.text, decimalText, toString]
    | v6 ip => simp [Endpoint.text, Ip.hostChars, Ipv6.text, decimalText, toString]

/-! ## §2. Places. -/

theorem Kind.ofScheme?_scheme (kind : Kind) : Kind.ofScheme? kind.scheme = some kind := by
  cases kind <;> rfl

/-- **A place is read back from its text.** -/
theorem ListenSpec.parse_text {spec : ListenSpec} (hkind : spec.kind ≠ .socks) :
    ListenSpec.parse spec.text = .ok spec := by
  obtain ⟨kind, ip, port⟩ := spec
  have hread := ip.hostText.parse kind port (Endpoint.toList_text ⟨ip, port⟩)
  refine listen_eq_ok_iff.mpr ⟨_, hread, ?_⟩
  rw [listen_ofUri_eq_ok_iff]
  exact ⟨kind.ofScheme?_scheme, hkind, hostAddress_asHost ip, rfl⟩

/-- What is read as a place is not behind a proxy. -/
theorem ListenSpec.kind_ne_socks {s : String} {spec : ListenSpec}
    (h : ListenSpec.parse s = .ok spec) : spec.kind ≠ .socks := by
  obtain ⟨u, -, hparts⟩ := listen_eq_ok_iff.mp h
  exact (listen_ofUri_eq_ok_iff.mp hparts).2.1

/-- **No two places have one text**, whatever their kinds. -/
theorem ListenSpec.text_inj {a b : ListenSpec} : a.text = b.text ↔ a = b := by
  constructor
  · intro h
    -- The first colon is the one behind the scheme.
    have hcut : ∀ spec : ListenSpec, cutFirst? ':' spec.text.toList =
        some (spec.kind.scheme.toList, '/' :: '/' :: spec.endpoint.text.toList) := by
      intro spec
      have hscheme : ':' ∉ spec.kind.scheme.toList := by cases spec.kind <;> decide
      have htext : spec.text.toList =
          spec.kind.scheme.toList ++ ':' :: '/' :: '/' :: spec.endpoint.text.toList := by
        simp [ListenSpec.text, toString]
      rw [htext, cutFirst?_append hscheme]
    have hparts := hcut a
    rw [h, hcut b, Option.some.injEq, Prod.mk.injEq, List.cons.injEq, List.cons.injEq,
      String.toList_inj, String.toList_inj] at hparts
    obtain ⟨hscheme, -, -, hendpoint⟩ := hparts
    have hkind : b.kind = a.kind := by
      apply Option.some.inj
      rw [← Kind.ofScheme?_scheme b.kind, hscheme, Kind.ofScheme?_scheme]
    -- An endpoint is known by its text, since a listener for plain TCP reads it back.
    have hread : ∀ e : Endpoint, ListenSpec.parse s!"tcp://{e.text}" = .ok ⟨.tcp, e⟩ := by
      intro e
      have htcp : (ListenSpec.mk .tcp e).kind ≠ .socks := by simp
      have hback : ListenSpec.parse (ListenSpec.mk .tcp e).text = .ok ⟨.tcp, e⟩ :=
        ListenSpec.parse_text htcp
      exact hback
    have hsame := hread a.endpoint
    rw [← hendpoint, hread b.endpoint, Except.ok.injEq, ListenSpec.mk.injEq] at hsame
    cases a
    cases b
    cases hkind
    cases hsame.2
    rfl
  · intro h
    rw [h]

/-- **Places to listen are read back from their text.**  Of every address of
either family and every port:

* a place of a kind that can be listened for is read back from its text,
* so whatever text was read as a place, the text that is written for it is
  read as the same place,
* two places have one text exactly if they are equal. -/
theorem listen_text_roundtrip :
    (∀ spec : ListenSpec, spec.kind = .tcp ∨ spec.kind = .tls →
      ListenSpec.parse spec.text = .ok spec) ∧
    (∀ (s : String) (spec : ListenSpec), ListenSpec.parse s = .ok spec →
      ListenSpec.parse spec.text = .ok spec) ∧
    (∀ a b : ListenSpec, a.text = b.text ↔ a = b) := by
  refine ⟨?_, ?_, fun a b => ListenSpec.text_inj⟩
  · intro spec hkind
    apply ListenSpec.parse_text
    rcases hkind with hkind | hkind <;> rw [hkind] <;> decide
  · intro s spec hread
    exact ListenSpec.parse_text (ListenSpec.kind_ne_socks hread)

/-- A mapped address in capitals and with zeros in front: it is written with
its dotted quad, and that is read as the same place. -/
theorem listen_text_roundtrip_mapped :
    ListenSpec.parse "tls://[0:0::00:FFFF:C000:0201]:0" =
      .ok ⟨.tls, ⟨.v6 ⟨[0, 0, 0, 0, 0, 0xFFFF, 0xC000, 0x0201], rfl⟩, 0⟩⟩ ∧
    ListenSpec.text ⟨.tls, ⟨.v6 ⟨[0, 0, 0, 0, 0, 0xFFFF, 0xC000, 0x0201], rfl⟩, 0⟩⟩ =
      "tls://[::ffff:192.0.2.1]:0" ∧
    ListenSpec.parse "tls://[::ffff:192.0.2.1]:0" =
      .ok ⟨.tls, ⟨.v6 ⟨[0, 0, 0, 0, 0, 0xFFFF, 0xC000, 0x0201], rfl⟩, 0⟩⟩ := by
  have hread : ListenSpec.parse "tls://[0:0::00:FFFF:C000:0201]:0" =
      .ok ⟨.tls, ⟨.v6 ⟨[0, 0, 0, 0, 0, 0xFFFF, 0xC000, 0x0201], rfl⟩, 0⟩⟩ := by decide +kernel
  have htext : ListenSpec.text ⟨.tls, ⟨.v6 ⟨[0, 0, 0, 0, 0, 0xFFFF, 0xC000, 0x0201], rfl⟩, 0⟩⟩ =
      "tls://[::ffff:192.0.2.1]:0" := by decide +kernel
  have hagain := listen_text_roundtrip.2.1 _ _ hread
  rw [htext] at hagain
  exact ⟨hread, htext, hagain⟩

end LinkLayer

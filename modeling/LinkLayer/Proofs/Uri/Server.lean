/-
  LinkLayer.Proofs.Uri.Server
  ───────────────────────────
  **A SERVER, WRITTEN AND READ.**

  A server is written as a host, a colon and a port.  Most characters have no
  other meaning there (`isPlain`), so that what is written is read again:

    • `HostText` — a text that is read as a host and ends where its colon
      stands: names (`HostText.of_name`), and the texts of IPv6 addresses in
      brackets (`HostText.of_ipv6`), whose own colons do not count,
    • `HostText.server` — **such a host with a port behind it is the server**,
    • `HostText.parse` — behind the scheme of a link it is a whole URI.
-/
import LinkLayer.Proofs.Net.Ip
import LinkLayer.Proofs.Uri.Authority
import Mathlib.Data.List.TakeWhile

namespace LinkLayer.Uri

open LinkLayer.Text

/-! ## §1. Characters without a meaning. -/

/-- A visible character that means nothing in a URI and is never escaped. -/
def isPlain (c : Char) : Bool := ' ' < c && !isForbiddenInHost c && !userinfoSet c

section Plain

variable {c : Char} (h : isPlain c = true)

include h

theorem visible_of_isPlain : ' ' < c := by
  simp only [isPlain, Bool.and_eq_true, decide_eq_true_eq] at h
  exact h.1.1

theorem allowed_of_isPlain : isForbiddenInHost c = false := by
  simp only [isPlain, Bool.and_eq_true, Bool.not_eq_true'] at h
  exact h.1.2

/-- A plain character is escaped in no part of a URI. -/
theorem kept_of_isPlain : userinfoSet c = false ∧ pathSet c = false ∧ controlSet c = false := by
  simp only [isPlain, Bool.and_eq_true, Bool.not_eq_true'] at h
  have hpath : pathSet c = false := (Bool.or_eq_false_iff.mp h.2).1
  exact ⟨h.2, hpath, (Bool.or_eq_false_iff.mp hpath).1⟩

theorem ne_of_isPlain {d : Char} (hd : isForbiddenInHost d = true) : c ≠ d := by
  rintro rfl
  rw [allowed_of_isPlain h] at hd
  cases hd

theorem inside_of_isPlain : endsAuthority false c = false := by
  simp [endsAuthority, ne_of_isPlain h (d := '/') (by decide),
    ne_of_isPlain h (d := '?') (by decide), ne_of_isPlain h (d := '#') (by decide)]

end Plain

/-- Letters and digits are ASCII. -/
theorem ascii_of_letter_or_digit {c : Char} (h : (isLetter c || isDigit c) = true) :
    c.toNat < 128 := by
  have hle : ∀ d : Char, d.toNat < 128 → c ≤ d → c.toNat < 128 := fun d hd hcd =>
    Nat.lt_of_le_of_lt (UInt32.le_iff_toNat_le.mp (Char.le_def.mp hcd)) hd
  simp only [isLetter, isDigit, Bool.or_eq_true, Bool.and_eq_true, decide_eq_true_eq] at h
  rcases h with (⟨-, h⟩ | ⟨-, h⟩) | ⟨-, h⟩
  · exact hle 'z' (by decide) h
  · exact hle 'Z' (by decide) h
  · exact hle '9' (by decide) h

/-- **Letters and digits are plain.** -/
theorem isPlain_of_letter_or_digit {c : Char} (h : (isLetter c || isDigit c) = true) :
    isPlain c = true := by
  have hascii : ∀ n < 128, (isLetter (Char.ofNat n) || isDigit (Char.ofNat n)) = true →
      isPlain (Char.ofNat n) = true := by decide +kernel
  have hplain := hascii c.toNat (ascii_of_letter_or_digit h)
  rw [Char.ofNat_toNat] at hplain
  exact hplain h

/-- Hexadecimal digits are letters and digits. -/
theorem isPlain_of_isHexDigit {c : Char} (h : isHexDigit c = true) : isPlain c = true := by
  refine isPlain_of_letter_or_digit ?_
  unfold isHexDigit hexValue? at h
  split at h
  · rename_i hdigit
    simp [isDigit, hdigit]
  split at h
  · rename_i hsmall
    simp [isLetter, hsmall.1, Char.le_trans hsmall.2 (by decide : 'f' ≤ 'z')]
  split at h
  · rename_i hcapital
    simp [isLetter, hcapital.1, Char.le_trans hcapital.2 (by decide : 'F' ≤ 'Z')]
  · cases h

theorem isPlain_of_mem_decimalText {c : Char} {n : Nat} (h : c ∈ decimalText n) :
    isPlain c = true :=
  isPlain_of_letter_or_digit (by rw [isDigit_of_mem_toDigits h, Bool.or_true])

/-- The text of an IPv6 address is plain but for its colons. -/
theorem mem_ipv6Chars {ip : Ipv6} {c : Char} (h : c ∈ ip.chars) : isPlain c = true ∨ c = ':' := by
  rcases Ipv6.mem_chars h with hc | hc | hc
  · exact .inl (isPlain_of_isHexDigit hc)
  · exact .inr hc
  · exact .inl (by rw [hc]; decide)

/-! ## §2. What counts of a URI with an authority. -/

/-- What counts of a URI with an authority that begins with visible
characters. -/
theorem significant_authority (kind : Kind) {s : String} (before after : List Char)
    (hs : s.toList = kind.scheme.toList ++ ':' :: '/' :: '/' :: (before ++ after))
    (hbefore : ∀ c ∈ before, ' ' < c) :
    significant s = kind.scheme.toList ++ ':' :: '/' :: '/' :: (before ++ settled after) := by
  have hs : s.toList = (kind.scheme.toList ++ "://".toList ++ before) ++ after := by simp [hs]
  have hscheme : (kind.scheme.toList ++ "://".toList).all (' ' < ·) = true := by
    cases kind <;> rfl
  rw [significant_append hs (by simp)]
  · simp
  · intro c hc
    rw [List.mem_append] at hc
    rcases hc with hc | hc
    · exact of_decide_eq_true (List.all_eq_true.mp hscheme c hc)
    · exact hbefore c hc

/-- A URI with an authority is read from behind the slashes on. -/
theorem parse_place (kind : Kind) (place : String) :
    Uri.parse s!"{kind.scheme}://{place}" =
      parseAuthority kind.scheme false none (settled place.toList) :=
  parse_of_scheme kind <|
    significant_authority kind [] place.toList (by simp [toString]) (by simp)

theorem cutUserinfo_none {cs : List Char} (h : '@' ∉ cs) :
    cutUserinfo false cs = .ok ⟨[], [], false, cs⟩ := by
  have hcut : cutLast? '@' (cs.takeWhile fun c => !endsAuthority false c) = none :=
    cutLast?_eq_none fun hmem => h ((List.takeWhile_sublist _).subset hmem)
  simp only [cutUserinfo, hcut]

/-- Visible characters count all, also at the end. -/
theorem settled_eq_self {cs : List Char} (h : ∀ c ∈ cs, ' ' < c) : settled cs = cs := by
  have hkept : cs.reverse.dropWhile (· ≤ ' ') = cs.reverse := by
    rw [List.dropWhile_eq_self_iff]
    intro hlength
    simpa using h _ (List.mem_reverse.mp (List.getElem_mem hlength))
  have hfilter : cs.filter (fun c => c ≠ '\t' ∧ c ≠ '\n' ∧ c ≠ '\r') = cs := by
    rw [List.filter_eq_self]
    intro c hc
    have hne : ∀ d : Char, d ≤ ' ' → c ≠ d := fun d hd hcd =>
      absurd (hcd ▸ hd) (Char.not_le.mpr (h c hc))
    simp [hne '\t' (by decide), hne '\n' (by decide), hne '\r' (by decide)]
  rw [settled, hkept, List.reverse_reverse, hfilter]

/-! ## §3. Hosts as they are written. -/

/-- A text that is read as a host, and ends where a colon stands behind it. -/
structure HostText (part : List Char) (host : Host) : Prop where
  span : ∀ rest, hostSpan false false (part ++ ':' :: rest) = part.length
  read : opaqueHost part = .ok host
  isEmpty_eq : host.isEmpty = false
  visible : ∀ c ∈ part, ' ' < c ∧ c ≠ '@'

theorem hostSpan_name {name : List Char} (h : ∀ c ∈ name, isPlain c = true)
    (rest : List Char) : hostSpan false false (name ++ ':' :: rest) = name.length := by
  induction name with
  | nil => simp [hostSpan]
  | cons c name ih =>
    have hc := h c List.mem_cons_self
    have hcolon : c ≠ ':' := ne_of_isPlain hc (by decide)
    have hopen : c ≠ '[' := ne_of_isPlain hc (by decide)
    have hclose : c ≠ ']' := ne_of_isPlain hc (by decide)
    simp only [List.cons_append, hostSpan, inside_of_isPlain hc, hcolon, hopen, hclose, false_and,
      decide_false, Bool.false_or, Bool.false_eq_true, if_false,
      ih fun d hd => h d (List.mem_cons_of_mem c hd), List.length_cons]

theorem opaqueHost_of_name {name : List Char} (h : ∀ c ∈ name, isPlain c = true) :
    opaqueHost name = .ok (.name name) := by
  have hany : ¬ name.any isForbiddenInHost = true := by
    rw [List.any_eq_true]
    rintro ⟨c, hc, hforbidden⟩
    exact ne_of_isPlain (h c hc) hforbidden rfl
  unfold opaqueHost
  split
  · exact absurd rfl (ne_of_isPlain (h '[' List.mem_cons_self) (by decide))
  · rw [if_neg hany, percentEncode_eq_self fun c hc => (kept_of_isPlain (h c hc)).2.2]

/-- **A plain text is the name of a host.** -/
theorem HostText.of_name {name : List Char} (hne : name ≠ [])
    (h : ∀ c ∈ name, isPlain c = true) : HostText name (.name name) where
  span := hostSpan_name h
  read := opaqueHost_of_name h
  isEmpty_eq := by simp [Host.isEmpty, hne]
  visible := fun c hc => ⟨visible_of_isPlain (h c hc), ne_of_isPlain (h c hc) (by decide)⟩

/-- Inside of brackets a colon does not end the host. -/
theorem hostSpan_inside {text : List Char} (h : ∀ c ∈ text, isPlain c = true ∨ c = ':')
    (rest : List Char) :
    hostSpan false true (text ++ ']' :: ':' :: rest) = text.length + 1 := by
  induction text with
  | nil =>
    show hostSpan false false (':' :: rest) + 1 = 1
    simp [hostSpan]
  | cons c text ih =>
    have hrest := ih fun d hd => h d (List.mem_cons_of_mem c hd)
    have hc : endsAuthority false c = false ∧ c ≠ '[' ∧ c ≠ ']' := by
      rcases h c List.mem_cons_self with hc | hc
      · exact ⟨inside_of_isPlain hc, ne_of_isPlain hc (by decide), ne_of_isPlain hc (by decide)⟩
      · rw [hc]
        decide
    simp [hostSpan, hc, hrest]

/-- **The text of an IPv6 address in brackets is a host**, and is that
address. -/
theorem HostText.of_ipv6 (ip : Ipv6) : HostText ('[' :: ip.chars ++ [']']) (.v6 ip) where
  span := by
    intro rest
    have hinside : hostSpan false true (ip.chars ++ ']' :: ':' :: rest) = ip.chars.length + 1 :=
      hostSpan_inside (fun c hc => mem_ipv6Chars hc) rest
    simp [hostSpan, endsAuthority, hinside]
  read := by
    show bracketed (ip.chars ++ [']']) = .ok (.v6 ip)
    simp [bracketed, ip.parse?_chars]
  isEmpty_eq := rfl
  visible := by
    intro c hc
    simp only [List.cons_append, List.mem_cons, List.mem_append, List.not_mem_nil, or_false] at hc
    rcases hc with hc | hc | hc
    · rw [hc]
      decide
    · rcases mem_ipv6Chars hc with hc | hc
      · exact ⟨visible_of_isPlain hc, ne_of_isPlain hc (by decide)⟩
      · rw [hc]
        decide
    · rw [hc]
      decide

/-! ## §4. A host with a port. -/

/-- **A port is read back from its digits**, up to the end of the authority. -/
theorem cutPort_decimalText (port : UInt16) {after : List Char}
    (hafter : after.head?.all (endsAuthority false) = true) :
    cutPort none (decimalText port.toNat ++ after) = .ok (some port, after) := by
  have hdigits : ∀ c ∈ decimalText port.toNat, isDigit c = true := fun _ =>
    isDigit_of_mem_toDigits
  have hends : ∀ c, endsAuthority false c = true →
      isDigit c = false ∧ (c = '/' ∨ c = '\\' ∨ c = '?' ∨ c = '#') := by
    intro c hc
    simp only [endsAuthority, Bool.false_and, Bool.or_false, Bool.or_eq_true,
      decide_eq_true_eq] at hc
    rcases hc with (hc | hc) | hc <;> rw [hc] <;> decide
  have hvalue : decimalValue (decimalText port.toNat) = port.toNat := decimalValue_toDigits _
  have hne : decimalText port.toNat ≠ [] := Nat.toDigits_ne_nil
  have hbound : ¬ 65535 < port.toNat := Nat.not_lt.mpr (Nat.le_of_lt_succ port.toNat_lt)
  cases after with
  | nil =>
    have htake : (decimalText port.toNat).takeWhile isDigit = decimalText port.toNat :=
      List.takeWhile_eq_self_iff.mpr hdigits
    have hdrop : (decimalText port.toNat).dropWhile isDigit = [] :=
      List.dropWhile_eq_nil_iff.mpr hdigits
    simp [cutPort, cutPort.portOf, htake, hdrop, hvalue, hne, hbound]
  | cons c after =>
    obtain ⟨hc, hend⟩ := hends c hafter
    have hstop : ¬ isDigit c = true := by rw [hc]; decide
    have htake : (decimalText port.toNat ++ c :: after).takeWhile isDigit =
        decimalText port.toNat := by
      rw [List.takeWhile_append_of_pos hdigits, List.takeWhile_cons_of_neg hstop, List.append_nil]
    have hdrop : (decimalText port.toNat ++ c :: after).dropWhile isDigit = c :: after := by
      rw [List.dropWhile_append_of_pos hdigits, List.dropWhile_cons_of_neg hstop]
    simp [cutPort, cutPort.portOf, htake, hdrop, hvalue, hne, hbound, hend]

namespace HostText

variable {part : List Char} {host : Host} (h : HostText part host)

include h

/-- **A host and a port are the server.** -/
theorem server (port : UInt16) {after : List Char}
    (hafter : after.head?.all (endsAuthority false) = true) :
    Uri.server (part ++ ':' :: decimalText port.toNat ++ after) = .ok ⟨host, some port, after⟩ := by
  rw [List.append_assoc, List.cons_append, Uri.server, h.span, List.take_left' rfl,
    List.drop_left' rfl, h.read]
  simp [portBehind, h.isEmpty_eq, cutPort_decimalText port hafter, Except.map]

/-- **A host and a port behind the scheme of a link are a URI**, with nothing
else in it. -/
theorem parse (kind : Kind) (port : UInt16) {place : String}
    (hplace : place.toList = part ++ ':' :: decimalText port.toNat) :
    Uri.parse s!"{kind.scheme}://{place}" =
      .ok { scheme := kind.scheme, username := [], password := [],
            host := some host, port := some port, path := [], query := none } := by
  have hvisible : ∀ c ∈ place.toList, ' ' < c ∧ c ≠ '@' := by
    intro c hc
    rw [hplace, List.mem_append, List.mem_cons] at hc
    rcases hc with hc | hc | hc
    · exact h.visible c hc
    · rw [hc]
      decide
    · have hplain := isPlain_of_mem_decimalText hc
      exact ⟨visible_of_isPlain hplain, ne_of_isPlain hplain (by decide)⟩
  have hserver : Uri.server place.toList = .ok ⟨host, some port, []⟩ := by
    have hend : ([] : List Char).head?.all (endsAuthority false) = true := rfl
    have hwhole := h.server port hend
    rw [List.append_nil] at hwhole
    rw [hplace, hwhole]
  rw [parse_place, settled_eq_self fun c hc => (hvisible c hc).1, parseAuthority_plain,
    cutUserinfo_none fun hc => (hvisible _ hc).2 rfl]
  simp only [hserver, assemble, h.isEmpty_eq]
  rfl

end HostText

end LinkLayer.Uri

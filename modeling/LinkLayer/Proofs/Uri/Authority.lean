/-
  LinkLayer.Proofs.Uri.Authority
  ──────────────────────────────
  **THE URIS OF LINKS, PART BY PART.**

  The schemes of links have no rules of their own.  A URI of theirs with an
  authority is read in two parts that do not know of each other:

    • the user information in front (`cutUserinfo`),
    • the server behind it: host, port, and what follows (`server`).

  `parse_of_scheme` reads a text that begins with such a scheme, and
  `parseAuthority_plain` splits the reading into the two parts.  In the other
  direction, whatever is read under such a scheme went that way
  (`parsePlain_of_parse`), so its host is free of colons and brackets unless it
  is an address (`host_name_free`).
-/
import LinkLayer.Link.Key
import LinkLayer.Proofs.Uri.Percent
import LinkLayer.Uri.Syntax

namespace LinkLayer.Uri

open LinkLayer.Text

/-! ## §1. What counts of a text. -/

/-- The characters that count of the rest of a text. -/
def settled (cs : List Char) : List Char :=
  (cs.reverse.dropWhile (· ≤ ' ')).reverse.filter fun c => c ≠ '\t' ∧ c ≠ '\n' ∧ c ≠ '\r'

theorem settled_sublist (cs : List Char) : (settled cs).Sublist cs := by
  refine List.Sublist.trans List.filter_sublist ?_
  have h := (List.dropWhile_suffix (l := cs.reverse) (· ≤ ' ')).sublist.reverse
  rwa [List.reverse_reverse] at h

/-- **Of a text with visible characters in front, those count all.** -/
theorem significant_append {s : String} {before cs : List Char} (hs : s.toList = before ++ cs)
    (hne : before ≠ []) (hvisible : ∀ c ∈ before, ' ' < c) :
    significant s = before ++ settled cs := by
  -- Nothing is taken off the visible characters, at either of their ends.
  have hkept : ∀ l : List Char, (∀ c ∈ l, ' ' < c) → l.dropWhile (· ≤ ' ') = l := by
    intro l hl
    cases l with
    | nil => rfl
    | cons c l => exact List.dropWhile_cons_of_neg (by simpa using hl c List.mem_cons_self)
  have hfront : (before ++ cs).dropWhile (· ≤ ' ') = before ++ cs := by
    obtain ⟨c, l, rfl⟩ := List.exists_cons_of_ne_nil hne
    exact List.dropWhile_cons_of_neg (by simpa using hvisible c List.mem_cons_self)
  have hend : ((before ++ cs).reverse.dropWhile (· ≤ ' ')).reverse =
      before ++ (cs.reverse.dropWhile (· ≤ ' ')).reverse := by
    rw [List.reverse_append, List.dropWhile_append,
      hkept before.reverse fun c hc => hvisible c (List.mem_reverse.mp hc)]
    split
    · rename_i hempty
      simp [List.isEmpty_iff.mp hempty]
    · simp
  have hfilter : before.filter (fun c => c ≠ '\t' ∧ c ≠ '\n' ∧ c ≠ '\r') = before := by
    rw [List.filter_eq_self]
    intro c hc
    have := hvisible c hc
    have hne : ∀ d : Char, d ≤ ' ' → c ≠ d := fun d hd hcd =>
      absurd (hcd ▸ hd) (Char.not_le.mpr this)
    simp [hne '\t' (by decide), hne '\n' (by decide), hne '\r' (by decide)]
  rw [significant, significant.trimEnds, hs, hfront, hend, List.filter_append, hfilter]
  rfl

/-! ## §2. Schemes of links. -/

theorem schemeClass_scheme (kind : Kind) : schemeClass kind.scheme = .plain := by
  cases kind <;> rfl

/-- **A text that begins with the scheme of a link** is read from the slashes
on. -/
theorem parse_of_scheme {s : String} (kind : Kind) {cs : List Char}
    (hs : significant s = kind.scheme.toList ++ ':' :: '/' :: '/' :: cs) :
    Uri.parse s = parseAuthority kind.scheme false none cs := by
  have hcut : cutScheme? (significant s) = some (kind.scheme, '/' :: '/' :: cs) := by
    rw [hs]
    cases kind <;> rfl
  simp only [Uri.parse, hcut, schemeClass_scheme, parsePlain]

/-! ## §3. User information and server. -/

/-- A server: host, port, and what follows. -/
structure Server where
  host : Host
  port : Option UInt16
  after : List Char

/-- The server of a host: a port behind a colon, or none. -/
def portBehind (host : Host) : List Char → Except SyntaxError Server
  | ':' :: portText =>
      if host.isEmpty then .error .emptyHost
      else (cutPort none portText).map fun p => ⟨host, p.1, p.2⟩
  | after => .ok ⟨host, none, after⟩

/-- The server that stands at the head of a text. -/
def server (cs : List Char) : Except SyntaxError Server :=
  match opaqueHost (cs.take (hostSpan false false cs)) with
  | .error e => .error e
  | .ok host => portBehind host (cs.drop (hostSpan false false cs))

/-- The URI of a server with some user information. -/
def assemble (scheme : String) (info : Userinfo) (s : Server) : Except SyntaxError Uri :=
  if s.host.isEmpty ∧ info.isPresent then .error .emptyHost
  else .ok {
    scheme, username := info.username, password := info.password,
    host := if s.host.isEmpty then none else some s.host,
    port := s.port, path := normalPath (pathAndQuery s.after).1,
    query := (pathAndQuery s.after).2 }

/-- **User information and server are read apart.** -/
theorem parseAuthority_plain (scheme : String) (cs : List Char) :
    parseAuthority scheme false none cs =
      match cutUserinfo false cs with
      | .error e => .error e
      | .ok info =>
          match server info.rest with
          | .error e => .error e
          | .ok s => assemble scheme info s := by
  unfold parseAuthority server assemble
  simp only [bind, Except.bind, pure, Except.pure, throw, throwThe, MonadExceptOf.throw]
  cases cutUserinfo false cs with
  | error e => rfl
  | ok info =>
    dsimp only
    cases opaqueHost (info.rest.take (hostSpan false false info.rest)) with
    | error e => rfl
    | ok host =>
      dsimp only
      simp only [Bool.false_eq_true, false_and, if_false]
      generalize info.rest.drop (hostSpan false false info.rest) = after
      split
      · rename_i portText
        rw [portBehind]
        cases hempty : host.isEmpty with
        | true => rfl
        | false => cases cutPort none portText <;> simp [Except.map, hempty]
      · rename_i hcolon
        rw [portBehind]
        exact hcolon

/-! ## §4. What was read under such a scheme. -/

theorem scheme_of_parseAuthority {scheme : String} {web : Bool} {default : Option Nat}
    {cs : List Char} {u : Uri} (h : parseAuthority scheme web default cs = .ok u) :
    u.scheme = scheme := by
  unfold parseAuthority at h
  simp only [bind, Except.bind, pure, Except.pure, throw, throwThe, MonadExceptOf.throw] at h
  repeat' (split at h <;> try cases h)
  all_goals rfl

theorem scheme_of_parseFile {cs : List Char} {u : Uri} (h : parseFile cs = .ok u) :
    u.scheme = "file" := by
  unfold parseFile parseFile.localFile at h
  simp only [bind, Except.bind, pure, Except.pure] at h
  repeat' (split at h <;> try cases h)
  all_goals rfl

/-- A URI whose scheme has no rules of its own was read by the plain rules. -/
theorem parsePlain_of_parse {s : String} {u : Uri} (h : Uri.parse s = .ok u)
    (hscheme : schemeClass u.scheme = .plain) : ∃ scheme cs, parsePlain scheme cs = .ok u := by
  unfold Uri.parse at h
  split at h
  · cases h
  rename_i scheme cs hcut
  split at h
  · exact ⟨scheme, cs, h⟩
  · rename_i hclass
    rw [scheme_of_parseAuthority h, hclass] at hscheme
    cases hscheme
  · rw [scheme_of_parseFile h] at hscheme
    cases hscheme

/-- **An opaque host keeps no forbidden character**: it is refused where it
has one, and an escape brings none in. -/
theorem opaqueHost_name {cs text : List Char} (h : opaqueHost cs = .ok (.name text)) :
    ∀ c ∈ text, isForbiddenInHost c = false := by
  have hescape : ∀ c, isForbiddenInHost c = true → c ≠ '%' ∧ hexValue? c = none := by
    intro c hc
    simp only [isForbiddenInHost, List.mem_cons, List.not_mem_nil, or_false,
      decide_eq_true_eq] at hc
    rcases hc with rfl | rfl | rfl | rfl | rfl | rfl | rfl | rfl | rfl | rfl | rfl | rfl | rfl |
      rfl | rfl | rfl | rfl <;> decide
  unfold opaqueHost at h
  split at h
  · unfold bracketed at h
    repeat' (split at h <;> try cases h)
  · split at h
    · cases h
    · rename_i hany
      cases h
      intro c hc
      by_contra hforbidden
      rw [Bool.not_eq_false] at hforbidden
      obtain ⟨hpercent, hdigit⟩ := hescape c hforbidden
      exact hany (List.any_eq_true.mpr
        ⟨c, mem_of_mem_percentEncode hc hpercent hdigit, hforbidden⟩)

theorem host_of_server {cs : List Char} {srv : Server} (h : server cs = .ok srv) :
    opaqueHost (cs.take (hostSpan false false cs)) = .ok srv.host := by
  unfold server at h
  split at h
  · cases h
  rename_i host hhost
  unfold portBehind at h
  split at h
  · rename_i portText _
    split at h
    · cases h
    · cases hport : cutPort none portText with
      | error e =>
        rw [hport] at h
        cases h
      | ok p =>
        rw [hport] at h
        cases h
        exact hhost
  · cases h
    exact hhost

/-- **What the plain rules read in front of a host**: it is an opaque host, it
is not empty, and what follows it is a normalised path. -/
theorem parts_of_parsePlain {scheme : String} {cs : List Char} {u : Uri}
    (h : parsePlain scheme cs = .ok u) {host : Host} (hhost : u.host = some host) :
    (∃ part, opaqueHost part = .ok host) ∧ host.isEmpty = false ∧
      ∃ path, u.path = normalPath path := by
  unfold parsePlain at h
  split at h
  · rw [parseAuthority_plain] at h
    split at h
    · cases h
    split at h
    · cases h
    rename_i srv hsrv
    unfold assemble at h
    split at h <;> cases h
    dsimp only at hhost
    split at hhost <;> cases hhost
    rename_i hempty
    exact ⟨⟨_, host_of_server hsrv⟩, by simpa using hempty, _, rfl⟩
  · cases h
    cases hhost

/-- **A host name under a scheme without rules of its own has no forbidden
character.** -/
theorem host_name_free {s : String} {u : Uri} (h : Uri.parse s = .ok u)
    (hscheme : schemeClass u.scheme = .plain) {text : List Char}
    (hhost : u.host = some (.name text)) : ∀ c ∈ text, isForbiddenInHost c = false := by
  obtain ⟨scheme, cs, hplain⟩ := parsePlain_of_parse h hscheme
  obtain ⟨⟨part, hpart⟩, -⟩ := parts_of_parsePlain hplain hhost
  exact opaqueHost_name hpart

end LinkLayer.Uri

/-
  LinkLayer.Proofs.Uri.Credentials
  ────────────────────────────────
  **CREDENTIALS IN A URI.**

  User name and password of a proxy stand in front of it, with everything but
  ASCII letters and digits in escapes (`credentialText`).  So written they end
  neither themselves nor the authority, whatever they are:

    • `parse_userinfo` — **user information changes nothing but itself**: a
      URI with it is read as the one without it, and the escapes are kept,
    • `credentials_as_written` — a call takes the escapes for the credentials.
      They stand for user name and password, octet by octet, but are the same
      texts only if nothing had to be escaped (`credentials_not_read`).
-/
import LinkLayer.Proofs.Uri.Dialled
import LinkLayer.Proofs.Uri.Server

namespace LinkLayer

open LinkLayer.Text LinkLayer.Uri

namespace Uri

/-! ## §1. Credentials as they are written. -/

/-- Everything but ASCII letters and digits. -/
def credentialSet : EncodeSet := fun c => !(isLetter c || isDigit c)

/-- A user name or a password as it is written in a URI. -/
def credentialText (s : String) : String := String.ofList (percentEncode credentialSet s.toList)

/-- A place with user name and password in front of it. -/
def withCredentials (user pass place : String) : String :=
  s!"{credentialText user}:{credentialText pass}@{place}"

/-- **Escaped credentials are plain.** -/
theorem isPlain_of_mem_credentialText {s : String} {c : Char}
    (h : c ∈ (credentialText s).toList) : isPlain c = true := by
  rw [credentialText, String.toList_ofList] at h
  rcases mem_percentEncode h with ⟨-, hc⟩ | rfl | hc
  · simp only [credentialSet, Bool.not_eq_false'] at hc
    exact isPlain_of_letter_or_digit hc
  · decide
  · exact isPlain_of_isHexDigit hc

theorem credentialText_ne_nil {s : String} (h : s ≠ "") : (credentialText s).toList ≠ [] := by
  rw [credentialText, String.toList_ofList]
  intro hnil
  have hlength : s.toList.length ≤ (percentEncode credentialSet s.toList).length :=
    length_le_percentEncode s.toList
  rw [hnil, List.length_nil, Nat.le_zero, List.length_eq_zero_iff] at hlength
  exact h (String.toList_inj.mp hlength)

/-- **The escapes stand for the text**, octet by octet. -/
theorem percentDecode_credentialText (s : String) :
    percentDecode (utf8Chars (credentialText s).toList) = utf8Chars s.toList := by
  rw [credentialText, String.toList_ofList]
  refine percentDecode_percentEncode (fun c hc => ?_) s.toList
  have hplain : (isLetter c || isDigit c) = true := by
    simpa only [credentialSet, Bool.not_eq_false'] using hc
  refine ⟨?_, ascii_of_letter_or_digit hplain⟩
  rintro rfl
  cases hplain

/-- The escapes are the text itself exactly if it is of letters and digits. -/
theorem credentialText_eq_self_iff (s : String) :
    credentialText s = s ↔ ∀ c ∈ s.toList, (isLetter c || isDigit c) = true := by
  rw [credentialText, ← String.toList_inj, String.toList_ofList, percentEncode_eq_self_iff]
  simp only [credentialSet, Bool.not_eq_false']

/-! ## §2. User information. -/

/-- **Credentials in front of a server are the user information**, as they are
written. -/
theorem cutUserinfo_some {user pass cs : List Char} (huser : ∀ c ∈ user, isPlain c = true)
    (hpass : ∀ c ∈ pass, isPlain c = true) (hne : user ≠ []) (h : '@' ∉ cs) :
    cutUserinfo false (user ++ ':' :: pass ++ '@' :: cs) = .ok ⟨user, pass, true, cs⟩ := by
  have hgo : ∀ c ∈ user ++ ':' :: pass ++ ['@'], (!endsAuthority false c) = true := by
    intro c hc
    simp only [List.mem_append, List.mem_cons, List.not_mem_nil, or_false] at hc
    rcases hc with (hc | rfl | hc) | rfl
    · rw [inside_of_isPlain (huser c hc)]; rfl
    · rfl
    · rw [inside_of_isPlain (hpass c hc)]; rfl
    · rfl
  -- What follows has no at sign, so the last one of the authority is the one before it.
  have hsplit : user ++ ':' :: pass ++ '@' :: cs = (user ++ ':' :: pass ++ ['@']) ++ cs := by simp
  have hcut : cutLast? '@' ((user ++ ':' :: pass ++ '@' :: cs).takeWhile
      fun c => !endsAuthority false c) =
      some (user ++ ':' :: pass, cs.takeWhile fun c => !endsAuthority false c) := by
    rw [hsplit, List.takeWhile_append_of_pos hgo, List.append_assoc]
    exact cutLast?_append _ fun hmem => h ((List.takeWhile_sublist _).subset hmem)
  have hrest : (user ++ ':' :: pass ++ '@' :: cs).drop ((user ++ ':' :: pass).length + 1) = cs := by
    rw [hsplit]
    refine List.drop_left' ?_
    simp only [List.length_append, List.length_cons, List.length_nil]
  have hpair : cutFirst? ':' (user ++ ':' :: pass) = some (user, pass) :=
    cutFirst?_append (fun hmem => ne_of_isPlain (huser _ hmem) (by decide) rfl) pass
  have hkept : ∀ {cs : List Char}, (∀ c ∈ cs, isPlain c = true) →
      percentEncode userinfoSet cs = cs := fun hcs =>
    percentEncode_eq_self fun c hc => (kept_of_isPlain (hcs c hc)).1
  have hinfo : ¬ (user ++ ':' :: pass = [] ∧ cs.head?.any (endsAuthority false) = true) := by simp
  simp only [cutUserinfo, hcut, hrest, if_neg hinfo, hpair, Option.getD_some, hkept huser,
    hkept hpass, decide_eq_true hne, Bool.true_or]

/-- **User information changes nothing but itself.**  Where a URI with a host
is read, the one with credentials in front of it is read alike, and has them
in their escapes. -/
theorem parse_userinfo (kind : Kind) {user pass place : String} {u : Uri}
    (huser : ∀ c ∈ user.toList, isPlain c = true)
    (hpass : ∀ c ∈ pass.toList, isPlain c = true) (hne : user.toList ≠ [])
    (hplace : '@' ∉ place.toList) (hhost : u.host ≠ none)
    (h : Uri.parse s!"{kind.scheme}://{place}" = .ok u) :
    Uri.parse s!"{kind.scheme}://{user}:{pass}@{place}" =
      .ok { u with username := user.toList, password := pass.toList } := by
  have hfree : '@' ∉ settled place.toList := fun hmem =>
    hplace ((settled_sublist place.toList).subset hmem)
  have hvisible : ∀ c ∈ user.toList ++ ':' :: pass.toList ++ ['@'], ' ' < c := by
    intro c hc
    simp only [List.mem_append, List.mem_cons, List.not_mem_nil, or_false] at hc
    rcases hc with (hc | rfl | hc) | rfl
    · exact visible_of_isPlain (huser c hc)
    · decide
    · exact visible_of_isPlain (hpass c hc)
    · decide
  have hwith : significant s!"{kind.scheme}://{user}:{pass}@{place}" =
      kind.scheme.toList ++ ':' :: '/' :: '/' ::
        (user.toList ++ ':' :: pass.toList ++ '@' :: settled place.toList) := by
    rw [significant_authority kind _ place.toList (by simp [toString]) hvisible]
    simp
  rw [parse_place, parseAuthority_plain, cutUserinfo_none hfree] at h
  rw [parse_of_scheme kind hwith, parseAuthority_plain, cutUserinfo_some huser hpass hne hfree]
  dsimp only at h ⊢
  cases hserver : server (settled place.toList) with
  | error e =>
    rw [hserver] at h
    cases h
  | ok srv =>
    rw [hserver] at h
    simp only [assemble, Bool.false_eq_true, and_false, if_false, Except.ok.injEq] at h
    subst h
    cases hempty : srv.host.isEmpty with
    | true => simp [hempty] at hhost
    | false => simp [assemble, hempty]

/-! ## §3. A server by its name, and one segment behind it. -/

/-- The name of a host. -/
def IsName (name : String) : Prop := name ≠ "" ∧ name.toList.all isPlain = true

theorem IsName.plain {name : String} (h : IsName name) : ∀ c ∈ name.toList, isPlain c = true :=
  List.all_eq_true.mp h.2

theorem IsName.toList_ne_nil {name : String} (h : IsName name) : name.toList ≠ [] := fun hnil =>
  h.1 (String.toList_inj.mp hnil)

theorem pathAndQuery_slash {seg : List Char} (h : ∀ c ∈ seg, c ≠ '?' ∧ c ≠ '#') :
    pathAndQuery ('/' :: seg) = ('/' :: seg, none) := by
  have hfragment : ∀ c ∈ '/' :: seg, decide (c ≠ '#') = true := by
    simpa using fun c hc => (h c hc).2
  have hquery : ∀ c ∈ '/' :: seg, decide (c ≠ '?') = true := by
    simpa using fun c hc => (h c hc).1
  have hbody : withoutFragment ('/' :: seg) = '/' :: seg := by
    rw [withoutFragment, List.takeWhile_eq_self_iff.mpr hfragment]
  simp only [pathAndQuery, hbody, List.takeWhile_eq_self_iff.mpr hquery,
    List.dropWhile_eq_nil_iff.mpr hquery]

/-- A colon is no part of a dot, however it is written. -/
theorem mem_of_afterDot? {cs rest : List Char} (hcolon : ':' ∈ cs)
    (h : afterDot? cs = some rest) : ':' ∈ rest := by
  unfold afterDot? at h
  split at h <;> cases h <;> simpa using hcolon

/-- A segment with a colon in it is no dots. -/
theorem normalPath_slash {seg : List Char} (hslash : '/' ∉ seg) (hcolon : ':' ∈ seg)
    (hset : ∀ c ∈ seg, pathSet c = false) : normalPath ('/' :: seg) = '/' :: seg := by
  have hsingle : isSingleDot seg = false := by
    rw [isSingleDot, decide_eq_false_iff_not]
    intro h
    cases mem_of_afterDot? hcolon h
  have hdouble : isDoubleDot seg = false := by
    rw [isDoubleDot, decide_eq_false_iff_not, Option.bind_eq_some_iff]
    rintro ⟨rest, hrest, h⟩
    cases mem_of_afterDot? (mem_of_afterDot? hcolon hrest) h
  have hwalk : walkSegments [] [seg] = [seg] := by
    simp [walkSegments, hdouble, hsingle]
  have hsegments : segments ('/' :: seg) = [seg] := by
    rw [segments, splitAt_eq_singleton hslash, List.map_singleton, percentEncode_eq_self hset,
      hwalk]
  rw [normalPath, if_neg (List.cons_ne_nil _ _), hsegments]
  exact List.append_nil ('/' :: seg)

theorem firstSegment?_slash {seg : List Char} (hslash : '/' ∉ seg) (hne : seg ≠ []) :
    firstSegment? ('/' :: seg) = some seg := by
  simp [firstSegment?, splitAt, splitAt_eq_singleton hslash, hne]

/-- A host name and a port are plain but for the colon: nothing in them is
escaped in a path, and nothing but the colon has a meaning. -/
theorem mem_namePort {name : String} (hname : IsName name) (port : UInt16) {c : Char}
    (h : c ∈ (s!"{name}:{port.toNat}").toList) :
    ' ' < c ∧ pathSet c = false ∧ ∀ d, isForbiddenInHost d = true → d ≠ ':' → c ≠ d := by
  have hcases : isPlain c = true ∨ c = ':' := by
    simp only [toString, String.toList_append, List.mem_append, Nat.toList_repr] at h
    rcases h with (h | h) | h
    · exact .inl (hname.plain c h)
    · exact .inr (List.mem_singleton.mp h)
    · exact .inl (isPlain_of_mem_decimalText h)
  rcases hcases with hc | rfl
  · exact ⟨visible_of_isPlain hc, (kept_of_isPlain hc).2.1, fun d hd _ => ne_of_isPlain hc hd⟩
  · exact ⟨by decide, by decide, fun d _ hcolon => hcolon.symm⟩

/-- **A proxy and a target, each by name and port, are read part by part.** -/
theorem parse_names (kind : Kind) {proxy target : String} (hproxy : IsName proxy)
    (htarget : IsName target) (port targetPort : UInt16) :
    Uri.parse (kind.scheme ++ "://" ++ s!"{proxy}:{port.toNat}/{target}:{targetPort.toNat}") =
      .ok {
        scheme := kind.scheme, username := [], password := [],
        host := some (.name proxy.toList), port := some port,
        path := '/' :: (s!"{target}:{targetPort.toNat}").toList, query := none } := by
  have hs : (kind.scheme ++ "://" ++
      s!"{proxy}:{port.toNat}/{target}:{targetPort.toNat}").toList =
      kind.scheme.toList ++ ':' :: '/' :: '/' ::
        ((s!"{proxy}:{port.toNat}").toList ++
          '/' :: (s!"{target}:{targetPort.toNat}").toList ++ []) := by
    simp [toString]
  have hcolon : ':' ∈ (s!"{target}:{targetPort.toNat}").toList := by simp [toString]
  have hplace : (s!"{proxy}:{port.toNat}").toList =
      proxy.toList ++ ':' :: decimalText port.toNat := by
    simp [toString, decimalText]
  -- From here on all that counts of the two parts is which characters they have.
  have hfirst := fun c => mem_namePort hproxy port (c := c)
  have hseg := fun c => mem_namePort htarget targetPort (c := c)
  generalize (s!"{proxy}:{port.toNat}").toList = first at *
  generalize (s!"{target}:{targetPort.toNat}").toList = seg at *
  have hall : ∀ c ∈ first ++ '/' :: seg, ' ' < c ∧ c ≠ '@' := by
    intro c hc
    rcases List.mem_append.mp hc with hc | hc
    · exact ⟨(hfirst c hc).1, (hfirst c hc).2.2 '@' (by decide) (by decide)⟩
    rcases List.mem_cons.mp hc with rfl | hc
    · decide
    · exact ⟨(hseg c hc).1, (hseg c hc).2.2 '@' (by decide) (by decide)⟩
  have hsignificant : significant (kind.scheme ++ "://" ++
      s!"{proxy}:{port.toNat}/{target}:{targetPort.toNat}") =
      kind.scheme.toList ++ ':' :: '/' :: '/' :: (first ++ '/' :: seg) := by
    rw [significant_authority kind _ [] hs fun c hc => (hall c hc).1]
    exact congrArg _ (congrArg (':' :: '/' :: '/' :: ·) (List.append_nil _))
  have hserver : server (first ++ '/' :: seg) =
      .ok ⟨.name proxy.toList, some port, '/' :: seg⟩ := by
    rw [hplace]
    exact (HostText.of_name hproxy.toList_ne_nil hproxy.plain).server port rfl
  have hpath : pathAndQuery ('/' :: seg) = ('/' :: seg, none) :=
    pathAndQuery_slash fun c hc =>
      ⟨(hseg c hc).2.2 '?' (by decide) (by decide), (hseg c hc).2.2 '#' (by decide) (by decide)⟩
  have hslash : '/' ∉ seg := fun h => (hseg _ h).2.2 '/' (by decide) (by decide) rfl
  have hnormal : normalPath ('/' :: seg) = '/' :: seg :=
    normalPath_slash hslash hcolon fun c hc => (hseg c hc).2.1
  rw [parse_of_scheme kind hsignificant, parseAuthority_plain,
    cutUserinfo_none fun h => (hall _ h).2 rfl]
  simp [hserver, assemble, Host.isEmpty, hproxy.toList_ne_nil, hpath, hnormal]

end Uri

/-! ## §4. Calls through a proxy. -/

/-- A peer with credentials for its proxy, if it has one. -/
def CallTarget.withAuth (auth : ProxyAuth) (t : CallTarget) : CallTarget :=
  { t with dial := { t.dial with proxy := t.dial.proxy.map fun p => { p with auth := some auth } } }

/-- A peer has a host. -/
theorem host_of_call {u : Uri} {source : Option String} {target : CallTarget}
    (h : CallTarget.ofUri u source = .ok target) : u.host ≠ none := by
  intro hnone
  have hauthority : CallTarget.authority u = .error .missingHost := by
    simp only [CallTarget.authority, hnone]
  have hdial : ∀ kind dial, CallTarget.dialOf kind u ≠ .ok dial := by
    intro kind dial hdial
    unfold CallTarget.dialOf at hdial
    rw [hauthority] at hdial
    repeat' (split at hdial <;> try cases hdial)
  unfold CallTarget.ofUri at h
  repeat' (split at h <;> try cases h)
  exact hdial _ _ ‹_›

/-- The credentials of a call are the user information as it was read. -/
theorem call_userinfo {u : Uri} {source : Option String} {target : CallTarget}
    (user pass : List Char) (hkind : Kind.ofScheme? u.scheme = some .socks) (hne : user ≠ [])
    (h : CallTarget.ofUri u source = .ok target) :
    CallTarget.ofUri { u with username := user, password := pass } source =
      .ok (target.withAuth ⟨String.ofList user, String.ofList pass⟩) := by
  have hpairs : queryPairs { u with username := user, password := pass } = queryPairs u := rfl
  have hauthority : CallTarget.authority { u with username := user, password := pass } =
      CallTarget.authority u := rfl
  simp only [CallTarget.ofUri, CallTarget.dialOf, hkind] at h
  simp only [CallTarget.ofUri, CallTarget.dialOf, hkind, hpairs, hauthority]
  cases hoptions : LinkOptions.ofPairs u.queryPairs with
  | error e => simp [hoptions] at h
  | ok options =>
    cases hseg : firstSegment? u.path with
    | none => simp [hoptions, hseg] at h
    | some seg =>
      cases haddr : CallTarget.authority u with
      | error e => simp [hoptions, hseg, haddr] at h
      | ok addr =>
        simp only [hoptions, hseg, haddr, Except.ok.injEq] at h
        subst h
        simp [CallTarget.withAuth, CallTarget.credentials, hne]

/-- A proxy and a target by name and port are called without credentials. -/
theorem call_names {proxy target : String} (hproxy : IsName proxy) (htarget : IsName target)
    (port targetPort : UInt16) (source : Option String) :
    CallTarget.parse ("socks://" ++ s!"{proxy}:{port.toNat}/{target}:{targetPort.toNat}") source =
      .ok ⟨{ kind := .socks, addr := s!"{target}:{targetPort.toNat}",
             proxy := some ⟨s!"{proxy}:{port.toNat}", none⟩,
             sourceInterface := CallTarget.interfaceOf source }, {}⟩ := by
  have hparts := parse_names .socks hproxy htarget port targetPort
  have hseg : firstSegment? ('/' :: (s!"{target}:{targetPort.toNat}").toList) =
      some (s!"{target}:{targetPort.toNat}").toList :=
    firstSegment?_slash
      (fun h => (mem_namePort htarget targetPort h).2.2 '/' (by decide) (by decide) rfl)
      (by simp [toString])
  refine call_eq_ok_iff.mpr ⟨_, hparts, ?_⟩
  generalize s!"{target}:{targetPort.toNat}" = addr at *
  simp [CallTarget.ofUri, CallTarget.dialOf, Kind.ofScheme?, Kind.scheme, hseg, queryPairs,
    ofPairs_of_other, CallTarget.authority, CallTarget.credentials, Uri.Host.chars]

/-- Credentials before a place without an at sign are added to the call. -/
theorem call_withCredentials {user pass place : String} {source : Option String}
    {peer : CallTarget} (huser : user ≠ "") (hplace : '@' ∉ place.toList)
    (h : CallTarget.parse ("socks://" ++ place) source = .ok peer) :
    CallTarget.parse ("socks://" ++ withCredentials user pass place) source =
      .ok (peer.withAuth ⟨credentialText user, credentialText pass⟩) := by
  obtain ⟨u, hu, hparts⟩ := call_eq_ok_iff.mp h
  have hne := credentialText_ne_nil huser
  have hkind : Kind.ofScheme? u.scheme = some .socks := by
    rw [scheme_of_parseAuthority ((parse_place .socks place).symm.trans hu)]
    rfl
  have hwith := parse_userinfo .socks (fun c => isPlain_of_mem_credentialText)
    (fun c => isPlain_of_mem_credentialText (s := pass)) hne hplace (host_of_call hparts) hu
  have htext : "socks://" ++ withCredentials user pass place =
      s!"{Kind.socks.scheme}://{credentialText user}:{credentialText pass}@{place}" := by
    rw [← String.toList_inj]
    simp [withCredentials, Kind.scheme, toString]
  have hauth := call_userinfo _ (credentialText pass).toList hkind hne hparts
  rw [String.ofList_toList, String.ofList_toList] at hauth
  rw [htext]
  exact call_eq_ok_iff.mpr ⟨_, hwith, hauth⟩

/-- **Credentials in a URI are taken as they are written.**  Of every user
name that is not empty and every password:

* with both in escapes before a proxy and a target by name and port, the call
  goes there, and its credentials are the escapes,
* the same holds before any proxy and target without an at sign: all but the
  credentials is as it is without them,
* the escapes stand for user name and password, octet by octet,
* but they are the user name and the password themselves exactly if both are
  of ASCII letters and digits. -/
theorem credentials_as_written (user pass : String) (huser : user ≠ "") (source : Option String) :
    (∀ proxy target : String, ∀ port targetPort : UInt16, IsName proxy → IsName target →
      CallTarget.parse ("socks://" ++ withCredentials user pass
          s!"{proxy}:{port.toNat}/{target}:{targetPort.toNat}") source =
        .ok ⟨{ kind := .socks, addr := s!"{target}:{targetPort.toNat}",
               proxy := some ⟨s!"{proxy}:{port.toNat}",
                 some ⟨credentialText user, credentialText pass⟩⟩,
               sourceInterface := CallTarget.interfaceOf source }, {}⟩) ∧
    (∀ place : String, '@' ∉ place.toList → ∀ peer,
      CallTarget.parse ("socks://" ++ place) source = .ok peer →
      CallTarget.parse ("socks://" ++ withCredentials user pass place) source =
        .ok (peer.withAuth ⟨credentialText user, credentialText pass⟩)) ∧
    (percentDecode (utf8Chars (credentialText user).toList) = utf8Chars user.toList ∧
      percentDecode (utf8Chars (credentialText pass).toList) = utf8Chars pass.toList) ∧
    ((⟨credentialText user, credentialText pass⟩ : ProxyAuth) = ⟨user, pass⟩ ↔
      ∀ c ∈ user.toList ++ pass.toList, (isLetter c || isDigit c) = true) := by
  refine ⟨?_, fun place hplace peer => call_withCredentials huser hplace,
    ⟨percentDecode_credentialText user, percentDecode_credentialText pass⟩, ?_⟩
  · intro proxy target port targetPort hproxy htarget
    have hplace : '@' ∉ (s!"{proxy}:{port.toNat}/{target}:{targetPort.toNat}").toList := by
      intro h
      have hparts : '@' ∈ (s!"{proxy}:{port.toNat}").toList ∨
          '@' ∈ (s!"{target}:{targetPort.toNat}").toList := by
        simp only [toString, String.toList_append, List.mem_append] at h ⊢
        tauto
      rcases hparts with h | h
      · exact (mem_namePort hproxy port h).2.2 '@' (by decide) (by decide) rfl
      · exact (mem_namePort htarget targetPort h).2.2 '@' (by decide) (by decide) rfl
    exact call_withCredentials huser hplace (call_names hproxy htarget port targetPort source)
  · rw [ProxyAuth.mk.injEq, credentialText_eq_self_iff, credentialText_eq_self_iff]
    simp only [List.mem_append, or_imp, forall_and]

/-- A user name and a password with characters that have a meaning in a URI,
before a proxy by its address. -/
theorem credentials_as_written_reserved :
    "al:ice" ≠ "" ∧ '@' ∉ "[::1]:1080/h:1".toList ∧
    CallTarget.parse ("socks://" ++ withCredentials "al:ice" "p@ss word" "[::1]:1080/h:1") none =
      .ok ⟨{ kind := .socks, addr := "h:1",
             proxy := some ⟨"[::1]:1080", some ⟨"al%3Aice", "p%40ss%20word"⟩⟩ }, {}⟩ := by
  have huser : credentialText "al:ice" = "al%3Aice" := by decide +kernel
  have hpass : credentialText "p@ss word" = "p%40ss%20word" := by decide +kernel
  have hcall := (credentials_as_written "al:ice" "p@ss word" (by decide) none).2.1
    "[::1]:1080/h:1" (by decide)
    ⟨{ kind := .socks, addr := "h:1", proxy := some ⟨"[::1]:1080", none⟩ }, {}⟩
    (by decide +kernel)
  rw [huser, hpass] at hcall
  exact ⟨by decide, by decide, hcall⟩

/-- **Credentials are not read back from their escapes**: the user name of one
at sign becomes `%40`. -/
theorem credentials_not_read :
    ¬ ∀ (user pass proxy target : String) (port targetPort : UInt16),
      user ≠ "" → IsName proxy → IsName target →
      ∃ peer, CallTarget.parse ("socks://" ++ withCredentials user pass
          s!"{proxy}:{port.toNat}/{target}:{targetPort.toNat}") none = .ok peer ∧
        peer.dial.proxy.bind (·.auth) = some ⟨user, pass⟩ := by
  intro h
  obtain ⟨peer, hcall, hauth⟩ := h "@" "p" "127.0.0.1" "h" 1080 1 (by decide)
    ⟨by decide, by decide⟩ ⟨by decide, by decide⟩
  have hread : CallTarget.parse ("socks://" ++ withCredentials "@" "p" "127.0.0.1:1080/h:1") none =
      .ok ⟨{ kind := .socks, addr := "h:1",
             proxy := some ⟨"127.0.0.1:1080", some ⟨"%40", "p"⟩⟩ }, {}⟩ := by decide +kernel
  cases hcall.symm.trans hread
  exact absurd hauth (by decide)

end LinkLayer

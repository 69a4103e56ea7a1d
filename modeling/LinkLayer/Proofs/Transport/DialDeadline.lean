/-
  LinkLayer.Proofs.Transport.DialDeadline
  ───────────────────────────────────────
  **WHAT THE DEADLINE OF A DIAL BOUNDS.**

  The network and the application take their time, or never come to an end.
  A target may set a deadline, and a dial without one is the same dial that
  takes the time that it takes (`DialTarget.patient`).

    • A plain dial and a dial through a proxy are the patient dial with the
      deadline around the whole of it (`dial_within`), so they are over by
      then.
    • A dial by TLS has the deadline around its first part, the connection.
      The upgrade that follows is not bounded (`dialTls_of_connected`).

  `dial_deadline` says which dials are over at any time from the deadline on:
  all but those by TLS whose upgrade has begun in time and still goes on.
  There are such dials, and they need not end (`upgrade_outlasts`).
-/
import LinkLayer.TcpScenario

namespace LinkLayer

/-! ## §1. Operations with a deadline. -/

namespace Timed

variable {α β : Type}

theorem isOverBy_now (a : α) (t : Nat) : (now a).isOverBy t = true := by simp [now, isOverBy]

/-- What is over stays over. -/
theorem isOverBy_mono {x : Timed α} {s t : Nat} (hst : s ≤ t) (h : x.isOverBy s = true) :
    x.isOverBy t = true := by
  cases x with
  | never => cases h
  | after n a =>
    simp only [isOverBy, decide_eq_true_eq] at h ⊢
    omega

/-- A deadline changes nothing, or cuts the operation. -/
theorem within_eq (d : Nat) (late : α) (x : Timed α) :
    x.within d late = if x.isOverBy d = true then x else .after d late := by
  cases x with
  | never => rfl
  | after n a => simp [within, isOverBy]

/-- The second operation has the time that the first one leaves. -/
theorem isOverBy_andThen_after (n : Nat) (a : α) (f : α → Timed β) {t : Nat} (hn : n ≤ t) :
    ((after n a).andThen f).isOverBy t = (f a).isOverBy (t - n) := by
  simp only [andThen]
  cases f a with
  | never => rfl
  | after k b =>
    simp only [isOverBy, decide_eq_decide]
    omega

end Timed

namespace Trial

variable {α β : Type}

/-- A failure is handed on. -/
theorem andThen_error (n : Nat) (e : TransportError) (f : α → Trial β) :
    andThen (.after n (.error e)) f = .after n (.error e) := rfl

/-- What goes on at once can as well go on inside of the deadline. -/
theorem andThen_within (d : Nat) (e : TransportError) (x : Trial α) (g : α → β) :
    andThen (Timed.within d (.error e) x) (fun a => .now (.ok (g a))) =
      Timed.within d (.error e) (andThen x fun a => .now (.ok (g a))) := by
  cases x with
  | never => rfl
  | after n r =>
    by_cases hn : n ≤ d <;> cases r <;>
      simp [andThen, Timed.within, Timed.andThen, Timed.now, hn]

theorem isOverBy_andThen_now (x : Trial α) (g : α → β) (t : Nat) :
    (andThen x fun a => .now (.ok (g a))).isOverBy t = x.isOverBy t := by
  cases x with
  | never => rfl
  | after n r => cases r <;> rfl

end Trial

/-! ## §2. Dials with and without a deadline. -/

/-- The target without a deadline. -/
def DialTarget.patient (target : DialTarget) : DialTarget := { target with timeout := none }

/-- The failure of a dial whose deadline has passed. -/
def DialTarget.late (target : DialTarget) (d : Nat) : TransportError :=
  .dialTimeout target.addr (d % Nat.pow 2 Means.deadlineBits)

namespace Means

variable {η : Type} (m : Means η) {target : DialTarget} {d : Nat}

theorem inTime_eq {α : Type} (hd : target.timeout = some d) (x : Trial α) :
    inTime target x = Timed.within d (.error (target.late d)) x := by
  simp [inTime, hd, DialTarget.late]

/-- A connection without a deadline. -/
theorem connectTo_patient (target : DialTarget) :
    m.connectTo target.patient = m.connect target.addr target.sourceInterface := rfl

/-- A connection with a deadline. -/
theorem connectTo_eq (hd : target.timeout = some d) :
    m.connectTo target = Timed.within d (.error (target.late d)) (m.connectTo target.patient) :=
  inTime_eq hd _

theorem dialTcp_within (hd : target.timeout = some d) :
    m.dialTcp target = Timed.within d (.error (target.late d)) (m.dialTcp target.patient) := by
  rw [dialTcp, m.connectTo_eq hd, Trial.andThen_within]
  rfl

theorem dialSocks_within (hd : target.timeout = some d) :
    m.dialSocks target =
      Timed.within d (.error (target.late d)) (m.dialSocks target.patient) := by
  cases hp : m.proxy with
  | none => simp only [dialSocks, hp]; rfl
  | some through =>
    simp only [dialSocks, hp, DialTarget.patient]
    cases target.proxy with
    | none => rfl
    | some proxy =>
      simp only [inTime_eq hd, Trial.andThen_within]
      rfl

/-- **Without TLS the deadline is around the whole dial.** -/
theorem dial_within (hd : target.timeout = some d) (hkind : target.kind ≠ .tls) :
    m.dial target = Timed.within d (.error (target.late d)) (m.dial target.patient) := by
  cases hk : target.kind with
  | tcp => simpa only [dial, hk, DialTarget.patient] using m.dialTcp_within hd
  | tls => exact absurd hk hkind
  | socks => simpa only [dial, hk, DialTarget.patient] using m.dialSocks_within hd

/-- A dial by TLS that connects in time goes on as if there were no
deadline. -/
theorem dialTls_of_connected (hd : target.timeout = some d)
    (h : (m.connectTo target.patient).isOverBy d = true) :
    m.dialTls target = m.dialTls target.patient := by
  simp only [dialTls, m.connectTo_eq hd, Timed.within_eq, h, if_true]
  rfl

/-- A dial by TLS that does not connect in time fails at the deadline. -/
theorem dialTls_of_not_connected (hd : target.timeout = some d) (hup : m.upgrade.isSome = true)
    (h : (m.connectTo target.patient).isOverBy d = false) :
    m.dialTls target = .after d (.error (target.late d)) := by
  obtain ⟨upgrade, hupgrade⟩ := Option.isSome_iff_exists.mp hup
  simp only [dialTls, hupgrade, m.connectTo_eq hd, Timed.within_eq, h]
  rfl

/-- A dial with a deadline is the patient one or fails at the deadline. -/
theorem dial_eq_patient_or_late (hd : target.timeout = some d) :
    m.dial target = m.dial target.patient ∨
      m.dial target = .after d (.error (target.late d)) := by
  by_cases hkind : target.kind = .tls
  · simp only [dial, hkind, DialTarget.patient]
    cases hup : m.upgrade with
    | none => exact .inl (by simp only [dialTls, hup])
    | some upgrade =>
      cases hc : (m.connectTo target.patient).isOverBy d with
      | true => exact .inl (m.dialTls_of_connected hd hc)
      | false => exact .inr (m.dialTls_of_not_connected hd (by simp [hup]) hc)
  · rw [m.dial_within hd hkind, Timed.within_eq]
    split
    · exact .inl rfl
    · exact .inr rfl

/-- An upgrade to TLS that has begun by the deadline `d` of its target and
still goes on at a time. -/
def Upgrading (target : DialTarget) (d elapsed : Nat) : Prop :=
  ∃ upgrade n socket, m.upgrade = some upgrade ∧ n ≤ d ∧
    m.connect target.addr target.sourceInterface = .after n (.ok socket) ∧
    (upgrade socket (serverName target.addr)).isOverBy (elapsed - n) = false

/-- Once it is connected, a dial by TLS takes as long as the upgrade. -/
theorem isOverBy_dialTls (hd : target.timeout = some d) {elapsed n : Nat} {socket : Socket}
    {upgrade : Socket → String → Trial Nat} (hup : m.upgrade = some upgrade)
    (hc : m.connect target.addr target.sourceInterface = .after n (.ok socket))
    (hn : n ≤ d) (helapsed : d ≤ elapsed) :
    (m.dialTls target).isOverBy elapsed =
      (upgrade socket (serverName target.addr)).isOverBy (elapsed - n) := by
  have hin : (m.connectTo target.patient).isOverBy d = true := by
    rw [connectTo_patient, hc]
    simpa [Timed.isOverBy] using hn
  rw [m.dialTls_of_connected hd hin]
  simp only [dialTls, hup, connectTo_patient, hc, Trial.andThen]
  rw [Timed.isOverBy_andThen_after n _ _ (Nat.le_trans hn helapsed)]
  exact Trial.isOverBy_andThen_now (upgrade socket (serverName target.addr))
    (connectionOver .tls target.patient socket) (elapsed - n)

/-- **A dial by TLS outlasts its deadline only in the upgrade.** -/
theorem dialTls_pending_iff (hd : target.timeout = some d) {elapsed : Nat}
    (helapsed : d ≤ elapsed) :
    (m.dialTls target).isOverBy elapsed = false ↔ m.Upgrading target d elapsed := by
  constructor
  · intro hpending
    cases hup : m.upgrade with
    | none => simp [dialTls, hup, Timed.isOverBy_now] at hpending
    | some upgrade =>
      cases hin : (m.connectTo target.patient).isOverBy d with
      | false =>
        rw [m.dialTls_of_not_connected hd (by simp [hup]) hin] at hpending
        simp [Timed.isOverBy, helapsed] at hpending
      | true =>
        rw [connectTo_patient] at hin
        cases hc : m.connect target.addr target.sourceInterface with
        | never => rw [hc] at hin; cases hin
        | after n r =>
          have hn : n ≤ d := by simpa [hc, Timed.isOverBy] using hin
          cases r with
          | ok socket =>
            rw [m.isOverBy_dialTls hd hup hc hn helapsed] at hpending
            exact ⟨upgrade, n, socket, hup, hn, hc, hpending⟩
          | error e =>
            -- A failure to connect is the failure of the dial.
            rw [m.dialTls_of_connected hd (by rw [connectTo_patient]; exact hin)] at hpending
            simp only [dialTls, hup, connectTo_patient, hc, Trial.andThen_error] at hpending
            simp [Timed.isOverBy, Nat.le_trans hn helapsed] at hpending
  · rintro ⟨upgrade, n, socket, hup, hn, hc, hpending⟩
    rw [m.isOverBy_dialTls hd hup hc hn helapsed, hpending]

/-- **Which dials outlast their deadline.** -/
theorem dial_pending_iff (hd : target.timeout = some d) {elapsed : Nat} (helapsed : d ≤ elapsed) :
    (m.dial target).isOverBy elapsed = false ↔
      target.kind = .tls ∧ m.Upgrading target d elapsed := by
  by_cases hkind : target.kind = .tls
  · simp only [dial, hkind, true_and]
    exact m.dialTls_pending_iff hd helapsed
  · rw [m.dial_within hd hkind,
      Timed.isOverBy_mono helapsed (Timed.isOverBy_within d _ _)]
    simp [hkind]

end Means

/-! ## §3. The transport. -/

namespace Tcp

/-- **What the deadline of a dial bounds**, whatever the network and the
application do.  A dial that began at a time on a transport that is not
stopped, with the deadline `d`:

  * at any time from the deadline on it is over, unless it is a dial by TLS
    whose upgrade had begun in time and still goes on,
  * it comes to what it would come to without a deadline, or to the failure
    that reports the deadline, at the deadline,
  * not by TLS, it comes to the latter exactly if it would not be over by
    then. -/
theorem dial_deadline {η : Type} (m : Means η) (t : Tcp η) (target : DialTarget) (d since now : Nat)
    (hrunning : t.isStopped = false) (hd : target.timeout = some d) (hnow : since + d ≤ now) :
    (BegunDial.isOverAt ⟨since, t.trial m target⟩ now = true ↔
      ¬ (target.kind = .tls ∧ m.Upgrading target d (now - since))) ∧
    (t.trial m target = t.trial m target.patient ∨
      t.trial m target = .after d (.error (target.late d))) ∧
    (target.kind ≠ .tls → t.trial m target =
      if (t.trial m target.patient).isOverBy d = true then t.trial m target.patient
      else .after d (.error (target.late d))) := by
  have htrial : ∀ target', t.trial m target' = m.dial target' := fun target' => by
    simp [trial, hrunning]
  simp only [htrial, BegunDial.isOverAt]
  refine ⟨?_, m.dial_eq_patient_or_late hd, fun hkind => ?_⟩
  · rw [← m.dial_pending_iff hd (Nat.le_sub_of_add_le' hnow), Bool.not_eq_false]
  · rw [m.dial_within hd hkind, Timed.within_eq]

/-- A way through a proxy that never comes to an end. -/
theorem dial_deadline_stalledProxy :
    let m := Hooks.means { socks := some .stall }
    let target : DialTarget :=
      { kind := .socks, addr := "node:9001", proxy := some ⟨"proxy:1080", none⟩,
        timeout := some 15 }
    ({ machine := {} } : Tcp Host).isStopped = false ∧ target.timeout = some 15 ∧ 7 + 15 ≤ 22 ∧
      BegunDial.isOverAt ⟨7, Tcp.trial m { machine := {} } target⟩ 22 = true ∧
      Tcp.trial m { machine := {} } target = .after 15 (.error (.dialTimeout "node:9001" 15)) := by
  have h := dial_deadline (Hooks.means { socks := some .stall }) { machine := {} }
    { kind := .socks, addr := "node:9001", proxy := some ⟨"proxy:1080", none⟩,
      timeout := some 15 } 15 7 22 rfl rfl (by decide)
  refine ⟨rfl, rfl, by decide, h.1.mpr (fun htls => ?_), (h.2.2 (by decide)).trans rfl⟩
  exact absurd htls.1 (by decide)

/-- A host that is reached at once, and an upgrade to TLS that never comes to
an end. -/
def stalledUpgrade : Means Host where
  bind e h := .ok (e, h)
  connect _ _ := .now (.ok ⟨0, "10.0.0.1", "10.0.0.2"⟩)
  upgrade := some fun _ _ => .never

/-- **Not every dial is over when its deadline has passed**: one by TLS may
never be. -/
theorem upgrade_outlasts :
    ¬ ∀ (m : Means Host) (t : Tcp Host) (target : DialTarget) (d since now : Nat),
      t.isStopped = false → target.timeout = some d → since + d ≤ now →
        BegunDial.isOverAt ⟨since, t.trial m target⟩ now = true := by
  intro h
  have hover := h stalledUpgrade { machine := {} }
    { kind := .tls, addr := "10.0.0.2:443", timeout := some 50 } 50 0 1000 rfl rfl (by decide)
  exact absurd hover (by decide)

end Tcp

end LinkLayer

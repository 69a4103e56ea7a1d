/-
  LinkLayer.Transport.Tcp
  ───────────────────────
  **THE TCP FAMILY OF TRANSPORTS.**

  Plain TCP is served directly, by the machine on which the transport runs:
  it lets endpoints be listened at, and connects to addresses.  For TLS and
  SOCKS the application supplies the means: an upgrade of a connected socket,
  and a way through a proxy.  Without them these kinds are unavailable.  Of
  machine and application nothing is known but what they answer.

  A dial has a deadline where its target has one.  It bounds the connection
  and the way through the proxy, but not the upgrade that follows the
  connection.  Stopping the transport ends dials that are under way.
-/
import LinkLayer.Transport.Basic
import LinkLayer.Transport.Timed

namespace LinkLayer

open LinkLayer.Text

/-! ## §1. Means. -/

/-- A connected socket: the number of its wire, and the addresses of its two
ends. -/
structure Socket where
  wire : Nat
  source : String
  remote : String
  deriving Repr, DecidableEq

/-- What comes of trying to get something. -/
abbrev Trial (α : Type) := Timed (Except TransportError α)

/-- A trial that goes on from what another one got. -/
def Trial.andThen {α β : Type} (x : Trial α) (f : α → Trial β) : Trial β :=
  Timed.andThen x fun
    | .ok a => f a
    | .error e => .now (.error e)

/-- What a machine with states in `η` does for its programs. -/
structure Machine (η : Type) where
  /-- Listen at an endpoint, at some port if the port is zero.  A failure is
  told in the words of the machine. -/
  bind : Endpoint → η → Except String (Endpoint × η)
  /-- Connect to an address, from a place if one is given. -/
  connect : String → Option String → Trial Socket

/-- What a transport of the TCP family has to work with: a machine, and what
the application supplies. -/
structure Means (η : Type) extends Machine η where
  /-- Upgrade a socket that is connected to a server with a name; the result
  is the number of the new wire. -/
  upgrade : Option (Socket → String → Trial Nat) := none
  /-- Connect to an address through a proxy. -/
  proxy : Option (Proxy → String → Trial Socket) := none

variable {η : Type}

/-! ## §2. Dialling. -/

/-- The host of `host:port`, without brackets. -/
def serverName (addr : String) : String :=
  let host := match cutLast? ':' addr.toList with
    | some (host, port) => if ']' ∈ port then addr.toList else host
    | none => addr.toList
  let unopened := host.dropWhile (· = '[')
  String.ofList (unopened.reverse.dropWhile (· = ']')).reverse

namespace Means

/-- The number of bits in which the length of a deadline is reported. -/
def deadlineBits : Nat := 64

/-- A trial with the deadline of a target. -/
def inTime {α : Type} (target : DialTarget) (x : Trial α) : Trial α :=
  match target.timeout with
  | none => x
  | some d => x.within d (.error (.dialTimeout target.addr (d % Nat.pow 2 deadlineBits)))

/-- Connect to a target directly. -/
def connectTo (m : Means η) (target : DialTarget) : Trial Socket :=
  inTime target (m.connect target.addr target.sourceInterface)

/-- The connection that a socket gives, on a wire of a kind. -/
def connectionOver (kind : Kind) (target : DialTarget) (socket : Socket) (wire : Nat) :
    Connection :=
  ⟨wire, kind, s!"{kind.scheme}://{target.addr}", socket.source, socket.remote⟩

/-- Dial by plain TCP. -/
def dialTcp (m : Means η) (target : DialTarget) : Trial Connection :=
  Trial.andThen (m.connectTo target) fun socket =>
    .now (.ok (connectionOver .tcp target socket socket.wire))

/-- The reason why TLS is unavailable. -/
def noUpgrade : TransportError := .unavailable .tls "no TLS upgrade configured"

/-- Dial by TLS: connect, then upgrade. -/
def dialTls (m : Means η) (target : DialTarget) : Trial Connection :=
  match m.upgrade with
  | none => .now (.error noUpgrade)
  | some upgrade =>
      Trial.andThen (m.connectTo target) fun socket =>
        Trial.andThen (upgrade socket (serverName target.addr)) fun wire =>
          .now (.ok (connectionOver .tls target socket wire))

/-- Dial through a proxy.  The remote end is the target and not the proxy. -/
def dialSocks (m : Means η) (target : DialTarget) : Trial Connection :=
  match m.proxy with
  | none => .now (.error (.unavailable .socks "no SOCKS dialer configured"))
  | some through =>
      match target.proxy with
      | none =>
          .now (.error (.invalidAddress target.addr "socks link without proxy address"))
      | some proxy =>
          Trial.andThen (inTime target (through proxy target.addr)) fun socket =>
            .now (.ok ⟨socket.wire, .socks, s!"socks://{proxy.addr}/{target.addr}",
              socket.source, serverName target.addr⟩)

/-- Dial a target. -/
def dial (m : Means η) (target : DialTarget) : Trial Connection :=
  match target.kind with
  | .tcp => m.dialTcp target
  | .tls => m.dialTls target
  | .socks => m.dialSocks target

end Means

/-! ## §3. The transport. -/

/-- A transport of the TCP family, and the machine on which it runs. -/
structure Tcp (η : Type) where
  machine : η
  isStopped : Bool := false
  deriving Repr, DecidableEq

namespace Tcp

/-- What a dial comes to, if the transport is not stopped meanwhile. -/
def trial (means : Means η) (t : Tcp η) (target : DialTarget) : Trial Connection :=
  if t.isStopped then .now (.error .stopped) else means.dial target

/-- What a dial comes to if the transport is stopped after a time. -/
def cutShort (stop : Nat) (x : Trial Connection) : Trial Connection :=
  x.within stop (.error .stopped)

/-- Why a kind cannot be listened for. -/
def listenFault? (means : Means η) : Kind → Option TransportError
  | .tcp => none
  | .tls => if means.upgrade.isSome then none else some Means.noUpgrade
  | .socks => some (.unavailable .socks "cannot listen through a proxy")

/-- Listen at a place. -/
def listen (means : Means η) (spec : ListenSpec) (t : Tcp η) : Reply (Tcp η) Endpoint :=
  if t.isStopped then ⟨.error .stopped, t, []⟩
  else
    match listenFault? means spec.kind with
    | some fault => ⟨.error fault, t, []⟩
    | none =>
        match means.bind spec.endpoint t.machine with
        | .error fault => ⟨.error (.io fault), t, []⟩
        | .ok (bound, machine) =>
            ⟨.ok bound, { t with machine }, [.accepting spec.kind bound]⟩

/-- Dial a target, however long it takes.  A dial that would never end is
ended by the stop. -/
def dial (means : Means η) (target : DialTarget) (t : Tcp η) : Reply (Tcp η) Connection :=
  ⟨(t.trial means target).result?.getD (.error .stopped), t, []⟩

/-- Stop; the second time nothing happens. -/
def stop (t : Tcp η) : Reply (Tcp η) Unit :=
  ⟨.ok (), { t with isStopped := true }, if t.isStopped then [] else [.transportStopped]⟩

/-- The transport that has some means to work with. -/
def transport (means : Means η) : Transport (Tcp η) := ⟨listen means, dial means, stop⟩

end Tcp

end LinkLayer

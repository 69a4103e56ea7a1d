/-
  LinkLayer.Scenario.Host
  ───────────────────────
  **A HOST WHOSE INTERFACES ARE DOWN.**

  Such a host lets its programs listen, but reaches nobody, not even itself:

    • `bind` takes every IPv4 address, and of the IPv6 addresses the
      unspecified and the mapped ones.  It refuses the ports below 1024, and
      endpoints at which something listens already.
    • `connectFault` says why a connection does not come up.  The faults are
      looked for in the order of the work: the text of the target, the
      device or address to connect from, the way to the target.
-/
import LinkLayer.Transport.Tcp

namespace LinkLayer

open LinkLayer.Text

/-! ## §1. Errors of the system. -/

/-- An error of the system. -/
inductive SystemError where
  | accessDenied
  | noDevice
  | invalidArgument
  | wrongFamily
  | inUse
  | notAvailable
  | unreachable
  deriving Repr, DecidableEq

namespace SystemError

/-- The number of an error. -/
def number : SystemError → Nat
  | accessDenied => 13
  | noDevice => 19
  | invalidArgument => 22
  | wrongFamily => 97
  | inUse => 98
  | notAvailable => 99
  | unreachable => 101

/-- The words of an error. -/
def words : SystemError → String
  | accessDenied => "Permission denied"
  | noDevice => "No such device"
  | invalidArgument => "Invalid argument"
  | wrongFamily => "Address family not supported by protocol"
  | inUse => "Address already in use"
  | notAvailable => "Cannot assign requested address"
  | unreachable => "Network is unreachable"

/-- The text of an error: words and number. -/
def text (e : SystemError) : String := s!"{e.words} (os error {e.number})"

end SystemError

/-! ## §2. Sorts of addresses. -/

/-- What an IPv6 address is good for. -/
inductive Scope where
  | unspecified
  | mapped
  | linkLocal
  | multicast
  | other
  deriving Repr, DecidableEq

/-- The sort of an IPv6 address. -/
def Ipv6.scope (ip : Ipv6) : Scope :=
  let first := (ip.pieces.headD 0).toNat
  if ip = .unspecified then .unspecified
  else if ip.mapped?.isSome then .mapped
  else if first / 64 = 0xFE80 / 64 then .linkLocal
  else if first / 256 = 0xFF then .multicast
  else .other

/-- The address, a mapped one in its own family. -/
def Ip.plain : Ip → Ip
  | .v6 ip => (ip.mapped?.map Ip.v4).getD (.v6 ip)
  | ip => ip

/-- Whether an address stands for all addresses of the host. -/
def Ip.isWildcard (ip : Ip) : Bool :=
  ip.plain = .v4 ⟨0, 0, 0, 0⟩ || ip = .v6 .unspecified

/-- Whether two endpoints cannot both be listened at. -/
def Endpoint.collides (a b : Endpoint) : Bool :=
  a.port = b.port && (a.ip.isWildcard || b.ip.isWildcard || a.ip.plain = b.ip.plain)

/-! ## §3. Listening. -/

/-- A host: where it is listened, and the port that comes next where any port
will do. -/
structure Host where
  listening : List Endpoint := []
  nextPort : UInt16 := 40000
  deriving Repr, DecidableEq

namespace Host

/-- The ports that not everybody may listen at. -/
def isPrivileged (port : UInt16) : Bool := port ≠ 0 && port < 1024

/-- Why an endpoint cannot be taken, whoever else listens. -/
def bindFault? (e : Endpoint) : Option SystemError :=
  let denied := if isPrivileged e.port then some SystemError.accessDenied else none
  match e.ip with
  | .v4 _ => denied
  | .v6 ip =>
      match ip.scope with
      | .multicast => some .invalidArgument
      | .linkLocal => some (denied.getD .invalidArgument)
      | .other => some (denied.getD .notAvailable)
      | .unspecified | .mapped => denied

/-- A port at which nothing listens, from a given one on. -/
def freePort (h : Host) : UInt16 :=
  let later := (List.range (h.listening.length + 1)).map fun k => h.nextPort + UInt16.ofNat k
  (later.find? fun port => h.listening.all (·.port ≠ port)).getD h.nextPort

/-- Listen at an endpoint, at a free port if the port is zero. -/
def bind (h : Host) (e : Endpoint) : Except SystemError (Endpoint × Host) :=
  match bindFault? e with
  | some fault => .error fault
  | none =>
      if e.port = 0 then
        let bound := { e with port := h.freePort }
        .ok (bound, { listening := h.listening ++ [bound], nextPort := bound.port + 1 })
      else if h.listening.any e.collides then .error .inUse
      else .ok (e, { h with listening := h.listening ++ [e] })

/-! ## §4. Connecting. -/

/-- Why a text names no endpoint. -/
inductive LookupError where
  | invalidAddress
  | invalidPort
  | zeroInName
  | unknownName
  deriving Repr, DecidableEq

/-- The wording of a reason. -/
def LookupError.message : LookupError → String
  | .invalidAddress => "invalid socket address"
  | .invalidPort => "invalid port value"
  | .zeroInName => "file name contained an unexpected NUL byte"
  | .unknownName =>
      "failed to lookup address information: Temporary failure in name resolution"

/-- The address of a host name: of the names only `localhost` is known. -/
def addressOf? (host : List Char) : Option Ip :=
  if host = "localhost".toList then some (.v4 ⟨127, 0, 0, 1⟩) else Ip.parse? host

/-- The endpoint that a text `host:port` names.  A text that is no endpoint
by itself is cut at its last colon, and the host is looked up.  No name has
the character zero in it. -/
def lookUp (text : String) : Except LookupError Endpoint :=
  match Endpoint.parse? text.toList with
  | some e => .ok e
  | none =>
      match cutLast? ':' text.toList with
      | none => .error .invalidAddress
      | some (host, port) =>
          match boundedDecimal? 65535 port with
          | none => .error .invalidPort
          | some port =>
              if '\x00' ∈ host then .error .zeroInName
              else
                match addressOf? host with
                | some ip => .ok ⟨ip, UInt16.ofNat port⟩
                | none => .error .unknownName

/-- Where a connection is to come from: an address, or a device. -/
inductive Source where
  | address (ip : Ip)
  | device (name : String)
  deriving Repr, DecidableEq

/-- What a text stands for: an address if it can be read as one.  The name of
a device ends at the character zero. -/
def Source.ofText (text : String) : Source :=
  match Ip.parse? text.toList with
  | some ip => .address ip
  | none => .device (String.ofList (text.toList.takeWhile (· ≠ '\x00')))

/-- The name of the device by which a host reaches itself. -/
def loopback : String := "lo"

/-- Why a connection cannot come from a place. -/
def sourceFault? (target : Ip) : Source → Option SystemError
  | .device name => if name = "" || name = loopback then none else some .noDevice
  | .address (.v4 _) =>
      match target with
      | .v4 _ => none
      | .v6 _ => some .invalidArgument
  | .address (.v6 ip) =>
      match target with
      | .v4 _ => some .wrongFamily
      | .v6 _ =>
          match ip.scope with
          | .unspecified | .mapped => none
          | .linkLocal | .multicast => some .invalidArgument
          | .other => some .notAvailable

/-- Why there is no way to an address, from a place that is good or from
anywhere. -/
def wayFault (target : Ip) (source : Option Source) : SystemError :=
  match target with
  | .v4 _ => .unreachable
  | .v6 ip =>
      match ip.scope, source with
      | .linkLocal, some (.device name) =>
          if name = "" then .invalidArgument else .notAvailable
      | .linkLocal, _ => .invalidArgument
      | .mapped, _ | .multicast, _ => .unreachable
      | _, some (.address (.v6 origin)) =>
          if origin.scope = .mapped then .unreachable else .notAvailable
      | _, _ => .notAvailable

/-- Why a connection does not come up. -/
inductive ConnectFault where
  | lookup (cause : LookupError)
  | system (cause : SystemError)
  deriving Repr, DecidableEq

/-- The wording of a fault. -/
def ConnectFault.message : ConnectFault → String
  | .lookup cause => cause.message
  | .system cause => cause.text

/-- Why a connection to a target does not come up. -/
def connectFault (target : String) (source : Option String) : ConnectFault :=
  match lookUp target with
  | .error e => .lookup e
  | .ok e =>
      let origin := source.map Source.ofText
      .system ((origin.bind (sourceFault? e.ip)).getD (wayFault e.ip origin))

/-- How long it takes to find out that an address has to be looked up. -/
def lookupMillis : Nat := 1

/-- Connect to an address: nobody is reached. -/
def connect (target : String) (source : Option String) : Trial Socket :=
  let delay := if (Endpoint.parse? target.toList).isSome then 0 else lookupMillis
  .after delay (.error (.io (connectFault target source).message))

/-- What such a host does for its programs. -/
def machine : Machine Host where
  bind e h := (h.bind e).mapError SystemError.text
  connect := connect

end Host

end LinkLayer

/-
  LinkLayer.Listen
  ────────────────
  **WHERE A NODE LISTENS.**

  A listener is written `tcp://ip:port` or `tls://ip:port`.  Its host has to
  be an address, since names are not looked up, and its port has to be given.
-/
import LinkLayer.Error
import LinkLayer.Uri.Syntax

namespace LinkLayer

/-- A place to listen: a kind of transport at an endpoint. -/
structure ListenSpec where
  kind : Kind
  endpoint : Endpoint
  deriving Repr, DecidableEq

namespace ListenSpec

/-- The text of a place to listen. -/
def text (s : ListenSpec) : String := s!"{s.kind.scheme}://{s.endpoint.text}"

/-- Why a URI is no place to listen. -/
inductive Reason where
  | malformed (cause : Uri.SyntaxError)
  | proxied
  | unknownScheme
  | hostIsNoAddress
  | missingHost
  | missingPort
  deriving Repr, DecidableEq

/-- The wording of a reason. -/
def Reason.message : Reason → String
  | .malformed cause => cause.message
  | .proxied => "cannot listen on a socks URI"
  | .unknownScheme => "unknown listen scheme"
  | .hostIsNoAddress => "listen host must be an IP address"
  | .missingHost => "missing host"
  | .missingPort => "missing port"

/-- The address that a host stands for. -/
def hostAddress : Option Uri.Host → Except Reason Ip
  | some (.v4 ip) => .ok (.v4 ip)
  | some (.v6 ip) => .ok (.v6 ip)
  | some (.name text) =>
      match Ip.parse? text with
      | some ip => .ok ip
      | none => .error .hostIsNoAddress
  | none => .error .missingHost

/-- The place to listen that a URI in parts stands for. -/
def ofUri (u : Uri) : Except Reason ListenSpec :=
  match Kind.ofScheme? u.scheme with
  | some .socks => .error .proxied
  | none => .error .unknownScheme
  | some kind =>
      match hostAddress u.host with
      | .error e => .error e
      | .ok ip =>
          match u.port with
          | none => .error .missingPort
          | some port => .ok ⟨kind, ⟨ip, port⟩⟩

/-- The place to listen that a text stands for, or the reason why there is
none. -/
def read (s : String) : Except Reason ListenSpec :=
  match Uri.parse s with
  | .error e => .error (.malformed e)
  | .ok u => ofUri u

/-- The place to listen that a text stands for. -/
def parse (s : String) : Except ConfigError ListenSpec :=
  match read s with
  | .ok spec => .ok spec
  | .error reason => .error (.invalidListen s reason.message)

end ListenSpec

end LinkLayer

/-
  LinkLayer.Call
  ──────────────
  **WHOM A NODE CALLS.**

  A peer is written `tcp://host:port`, `tls://host:port` or
  `socks://[user:password@]proxy:port/target`.  Two query parameters are
  options of the link:

    • `ed25519`, any number of times, pins the key of the peer,
    • `metric`, at most once, is the cost that this end claims, 0 to 255.
-/
import LinkLayer.Error
import LinkLayer.Text.Basic
import LinkLayer.Uri.Syntax

namespace LinkLayer

open LinkLayer.Text

/-! ## §1. Options of a link. -/

/-- What the caller asks of a link. -/
structure LinkOptions where
  pinned : List Identity := []
  metric : UInt8 := 0
  deriving Repr, DecidableEq

namespace LinkOptions

/-- Whether an identity is acceptable: with no key pinned, every one is. -/
def admits (o : LinkOptions) (k : Identity) : Bool := o.pinned = [] || k ∈ o.pinned

/-- Why the options of a URI cannot be read. -/
inductive Reason where
  | badKey (text : String) (cause : Identity.ParseError)
  | badMetric (text : String)
  | repeatedMetric
  deriving Repr, DecidableEq

/-- The wording of a reason. -/
def Reason.message : Reason → String
  | .badKey text cause => (ConfigError.invalidPublicKey text cause).message
  | .badMetric text => s!"metric must be 0-255, got {quote text}"
  | .repeatedMetric => "metric given more than once"

/-- The identities of the parameters `ed25519`, in their order; the first
that cannot be read is the error. -/
def pinnedOf : List (String × String) → Except Reason (List Identity)
  | [] => .ok []
  | (name, value) :: rest =>
      if name = "ed25519" then
        match Identity.parse value with
        | .error e => .error (.badKey value e)
        | .ok k =>
            match pinnedOf rest with
            | .error e => .error e
            | .ok ks => .ok (k :: ks)
      else pinnedOf rest

/-- The values of the parameter `metric`. -/
def metricTexts (pairs : List (String × String)) : List String :=
  (pairs.filter (·.1 = "metric")).map (·.2)

/-- The metric that a list of parameters sets. -/
def metricOf (pairs : List (String × String)) : Except Reason UInt8 :=
  match metricTexts pairs with
  | [] => .ok 0
  | [text] =>
      match boundedDecimal? 255 text.toList with
      | some n => .ok (UInt8.ofNat n)
      | none => .error (.badMetric text)
  | _ => .error .repeatedMetric

/-- The options that a list of parameters sets. -/
def ofPairs (pairs : List (String × String)) : Except Reason LinkOptions :=
  match pinnedOf pairs with
  | .error e => .error e
  | .ok ks =>
      match metricOf pairs with
      | .error e => .error e
      | .ok metric => .ok ⟨firsts ks, metric⟩

end LinkOptions

/-! ## §2. Where to dial. -/

/-- User name and password for a proxy. -/
structure ProxyAuth where
  user : String
  password : String
  deriving Repr, DecidableEq

/-- A proxy to dial through. -/
structure Proxy where
  addr : String
  auth : Option ProxyAuth
  deriving Repr, DecidableEq

/-- What a transport is asked to dial.  The deadline is in milliseconds. -/
structure DialTarget where
  kind : Kind
  addr : String
  proxy : Option Proxy := none
  sourceInterface : Option String := none
  timeout : Option Nat := none
  deriving Repr, DecidableEq

/-- Whom to call, and how. -/
structure CallTarget where
  dial : DialTarget
  options : LinkOptions
  deriving Repr, DecidableEq

/-! ## §3. Reading a peer. -/

namespace CallTarget

/-- Why a URI names no peer. -/
inductive Reason where
  | malformed (cause : Uri.SyntaxError)
  | unknownScheme (scheme : String)
  | badOptions (cause : LinkOptions.Reason)
  | noTarget
  | missingHost
  | missingPort
  deriving Repr, DecidableEq

/-- The error that a reason is reported as. -/
def Reason.toLinkError (uri : String) : Reason → LinkError
  | .malformed cause => .invalidUri uri cause.message
  | .unknownScheme scheme => .unknownScheme scheme
  | .badOptions cause => .invalidUri uri cause.message
  | .noTarget => .invalidUri uri "socks URI has no target in its path"
  | .missingHost => .invalidUri uri "missing host"
  | .missingPort => .invalidUri uri "missing port"

/-- Host and port of a URI, with a colon between them. -/
def authority (u : Uri) : Except Reason String :=
  match u.host with
  | none => .error .missingHost
  | some host =>
      match u.port with
      | none => .error .missingPort
      | some port => .ok s!"{String.ofList host.chars}:{port.toNat}"

/-- The credentials of a URI: those with a user name. -/
def credentials (u : Uri) : Option ProxyAuth :=
  if u.username = [] then none
  else some ⟨String.ofList u.username, String.ofList u.password⟩

/-- What to dial for a URI of a given kind. -/
def dialOf (kind : Kind) (u : Uri) : Except Reason DialTarget :=
  match kind with
  | .socks =>
      match Uri.firstSegment? u.path with
      | none => .error .noTarget
      | some target =>
          match authority u with
          | .error e => .error e
          | .ok addr =>
              .ok { kind, addr := String.ofList target, proxy := some ⟨addr, credentials u⟩ }
  | _ =>
      match authority u with
      | .error e => .error e
      | .ok addr => .ok { kind, addr }

/-- The interface to dial from; an empty name means none. -/
def interfaceOf (source : Option String) : Option String := source.filter (· ≠ "")

/-- The peer that a URI in parts names. -/
def ofUri (u : Uri) (source : Option String) : Except Reason CallTarget :=
  match Kind.ofScheme? u.scheme with
  | none => .error (.unknownScheme u.scheme)
  | some kind =>
      match LinkOptions.ofPairs u.queryPairs with
      | .error e => .error (.badOptions e)
      | .ok options =>
          match dialOf kind u with
          | .error e => .error e
          | .ok dial => .ok ⟨{ dial with sourceInterface := interfaceOf source }, options⟩

/-- The peer that a text names, or the reason why there is none. -/
def read (s : String) (source : Option String) : Except Reason CallTarget :=
  match Uri.parse s with
  | .error e => .error (.malformed e)
  | .ok u => ofUri u source

/-- The peer that a text names. -/
def parse (s : String) (source : Option String) : Except LinkError CallTarget :=
  match read s source with
  | .ok target => .ok target
  | .error reason => .error (reason.toLinkError s)

end CallTarget

end LinkLayer

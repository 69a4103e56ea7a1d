/-
  LinkLayer.Uri.Host
  ──────────────────
  **THE HOST OF A URI.**

  A host in brackets is an IPv6 address under every scheme.  Any other host
  is read in one of two ways:

    • schemes without rules of their own have an opaque host: a few
      characters are forbidden, the controls and everything outside ASCII
      are percent-encoded, and letters keep their case,
    • web schemes have a domain, with its escapes read; one that ends in a
      number has to be an IPv4 address.
-/
import LinkLayer.Domain.Name
import LinkLayer.Net.Ip
import LinkLayer.Uri.Percent

namespace LinkLayer.Uri

open LinkLayer.Text

/-! ## §1. Hosts and what can be wrong with a URI. -/

/-- The host of a URI. -/
inductive Host where
  | name (text : List Char)
  | v4 (ip : Ipv4)
  | v6 (ip : Ipv6)
  deriving Repr, DecidableEq

/-- The text of a host; an IPv6 address stands in brackets, with all of its
pieces in hexadecimal. -/
def Host.chars : Host → List Char
  | .name text => text
  | .v4 ip => ip.chars
  | .v6 ip => '[' :: ip.hexChars ++ [']']

/-- Why a text is not a URI. -/
inductive SyntaxError where
  | noScheme
  | emptyHost
  | invalidPort
  | invalidIpv4
  | invalidIpv6
  | invalidHostCharacter
  | invalidDomain
  deriving Repr, DecidableEq

/-- The wording of a syntax error. -/
def SyntaxError.message : SyntaxError → String
  | .noScheme => "relative URL without a base"
  | .emptyHost => "empty host"
  | .invalidPort => "invalid port number"
  | .invalidIpv4 => "invalid IPv4 address"
  | .invalidIpv6 => "invalid IPv6 address"
  | .invalidHostCharacter => "invalid domain character"
  | .invalidDomain => "invalid international domain name"

/-- A host in brackets; the opening bracket is taken off already. -/
def bracketed (rest : List Char) : Except SyntaxError Host :=
  if rest.getLast? = some ']' then
    match Ipv6.parse? rest.dropLast with
    | some ip => .ok (.v6 ip)
    | none => .error .invalidIpv6
  else .error .invalidIpv6

/-! ## §2. Opaque hosts. -/

/-- Characters that no opaque host contains. -/
def isForbiddenInHost (c : Char) : Bool :=
  c ∈ ['\x00', '\t', '\n', '\r', ' ', '#', '/', ':', '<', '>', '?', '@', '[', '\\', ']', '^', '|']

/-- The host of a scheme without rules of its own. -/
def opaqueHost (cs : List Char) : Except SyntaxError Host :=
  match cs with
  | '[' :: rest => bracketed rest
  | _ =>
      if cs.any isForbiddenInHost then .error .invalidHostCharacter
      else .ok (.name (percentEncode controlSet cs))

/-! ## §3. Numeric domains. -/

/-- One number of a domain that ends in a number: `none` if it is no number,
`some none` if it is past 32 bits. -/
def domainNumber? (cs : List Char) : Option (Option Nat) :=
  let read (base : Nat) (ds : List Char) : Option (Option Nat) :=
    if ds.all fun c => (hexValue? c).any (· < base) then
      let n := digitsValue base ds
      some (if n ≤ 0xFFFFFFFF then some n else none)
    else none
  match cs with
  | [] => none
  | ['0', 'x'] | ['0', 'X'] => some (some 0)
  | '0' :: 'x' :: ds | '0' :: 'X' :: ds => read 16 ds
  | '0' :: d :: ds => read 8 (d :: ds)
  | _ => read 10 cs

/-- Whether the last label of a domain, a final dot aside, is a number. -/
def endsInNumber (cs : List Char) : Bool :=
  let isNumber (label : List Char) : Bool :=
    (label ≠ [] && label.all isDigit) || (domainNumber? label).isSome
  match (splitAt '.' cs).reverse with
  | [] :: label :: _ => isNumber label
  | [] :: [] => false
  | label :: _ => isNumber label
  | [] => false

/-- The address that a numeric domain stands for: up to four numbers, the
last of which fills all the octets that are left. -/
def numericHost (cs : List Char) : Except SyntaxError Host :=
  let labels := splitAt '.' cs
  let parts := if labels.getLast? = some [] then labels.dropLast else labels
  if 4 < parts.length then .error .invalidIpv4
  else
    match (parts.mapM fun p => (domainNumber? p).join), parts.length with
    | some numbers, count =>
        match numbers.reverse with
        | [] => .error .invalidIpv4
        | last :: heads =>
            if 0xFFFFFFFF / Nat.pow 256 (count - 1) < last ∨ heads.any (255 < ·) then
              .error .invalidIpv4
            else
              let placed := heads.zipIdx.map fun (x, i) => x * Nat.pow 256 (4 - (count - 1) + i)
              let n := placed.foldl (· + ·) last
              .ok (.v4 ⟨UInt8.ofNat (n / 0x1000000), UInt8.ofNat (n / 0x10000),
                UInt8.ofNat (n / 0x100), UInt8.ofNat n⟩)
    | none, _ => .error .invalidIpv4

/-- Labels with a full stop between each two. -/
def domainText (labels : List (List Char)) : List Char := ['.'].intercalate labels

/-- The host of a web scheme. -/
def domainHost (cs : List Char) : Except SyntaxError Host :=
  match cs with
  | '[' :: rest => bracketed rest
  | _ =>
      match (Domain.read? (percentDecode (utf8Chars cs))).map domainText with
      | none => .error .invalidDomain
      | some [] => .error .emptyHost
      | some text => if endsInNumber text then numericHost text else .ok (.name text)

end LinkLayer.Uri

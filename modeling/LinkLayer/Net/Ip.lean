/-
  LinkLayer.Net.Ip
  ────────────────
  **INTERNET ADDRESSES AND THEIR TEXT.**

    • `Ipv4` is four octets, written as a dotted quad,
    • `Ipv6` is eight pieces of sixteen bits.  `Ipv6.hexChars` writes the
      pieces and puts `::` for the first of the longest runs of two or more
      zero pieces; `Ipv6.text` does the same but writes a mapped IPv4
      address with its dotted quad,
    • `Endpoint` is an address with a port; an IPv6 address stands in
      brackets there.

  The readers accept every spelling of the textual grammar: pieces of one to
  four digits, one `::` that stands for at least one piece, and a dotted quad
  in the place of the last two pieces.
-/
import LinkLayer.Text.Bytes
import LinkLayer.Text.Quoted
import LinkLayer.Text.Numeral

namespace LinkLayer

open LinkLayer.Text

/-! ## §1. IPv4. -/

/-- An IPv4 address. -/
structure Ipv4 where
  a : UInt8
  b : UInt8
  c : UInt8
  d : UInt8
  deriving Repr, DecidableEq

/-- The decimal numeral of a number. -/
def decimalText (n : Nat) : List Char := Nat.toDigits 10 n

/-- The dotted quad of an address, as characters. -/
def Ipv4.chars (ip : Ipv4) : List Char :=
  decimalText ip.a.toNat ++ '.' :: decimalText ip.b.toNat
    ++ '.' :: decimalText ip.c.toNat ++ '.' :: decimalText ip.d.toNat

/-- The dotted quad of an address. -/
def Ipv4.text (ip : Ipv4) : String := String.ofList ip.chars

/-- One number of a dotted quad: one to three digits, no leading zero, at
most 255. -/
def octet? (cs : List Char) : Option UInt8 :=
  if 3 < cs.length then none
  else if cs.head? = some '0' ∧ cs ≠ ['0'] then none
  else
    match decimal? cs with
    | some n => if n ≤ 255 then some (UInt8.ofNat n) else none
    | none => none

/-- The address that a strict dotted quad stands for. -/
def Ipv4.parse? (cs : List Char) : Option Ipv4 :=
  match (splitAt '.' cs).map octet? with
  | [some a, some b, some c, some d] => some ⟨a, b, c, d⟩
  | _ => none

/-! ## §2. IPv6. -/

/-- An IPv6 address, piece by piece. -/
structure Ipv6 where
  pieces : List UInt16
  length_eq : pieces.length = 8
  deriving Repr, DecidableEq

/-- The address with the given pieces, if there are eight. -/
def Ipv6.ofPieces? (ps : List UInt16) : Option Ipv6 :=
  if h : ps.length = 8 then some ⟨ps, h⟩ else none

/-- The unspecified address `::`. -/
def Ipv6.unspecified : Ipv6 := ⟨[0, 0, 0, 0, 0, 0, 0, 0], rfl⟩

/-- Octets joined in pairs, high octet first. -/
def joinOctets : Bytes → List UInt16
  | hi :: lo :: rest => (hi.toUInt16 * 256 + lo.toUInt16) :: joinOctets rest
  | _ => []

/-- The sixteen octets of an address. -/
def Ipv6.octets (ip : Ipv6) : Bytes :=
  ip.pieces.flatMap fun p => [UInt8.ofNat (p.toNat / 256), UInt8.ofNat (p.toNat % 256)]

/-- The address with the given sixteen octets. -/
def Ipv6.ofOctets? (bs : Bytes) : Option Ipv6 := Ipv6.ofPieces? (joinOctets bs)

/-- The IPv4 address inside a mapped address `::ffff:a.b.c.d`. -/
def Ipv6.mapped? (ip : Ipv6) : Option Ipv4 :=
  match ip.pieces with
  | [0, 0, 0, 0, 0, 0xFFFF, hi, lo] =>
      some ⟨UInt8.ofNat (hi.toNat / 256), UInt8.ofNat (hi.toNat % 256),
        UInt8.ofNat (lo.toNat / 256), UInt8.ofNat (lo.toNat % 256)⟩
  | _ => none

/-! ### Writing. -/

/-- The number of zero pieces at the head of a list. -/
def zeroRun (ps : List UInt16) : Nat := (ps.takeWhile (· = 0)).length

/-- The place and the length of the first of the longest runs of zero pieces,
looking from place `i` on. -/
def longestZeroRun : Nat → List UInt16 → Nat × Nat
  | _, [] => (0, 0)
  | i, p :: ps =>
      let here := zeroRun (p :: ps)
      let later := longestZeroRun (i + 1) ps
      if later.2 ≤ here then (i, here) else later

/-- Pieces in hexadecimal with colons between them. -/
def piecesText (ps : List UInt16) : List Char :=
  (ps.map fun p => hexNumeral p.toNat).intersperse [':'] |>.flatten

/-- The text of an address with all pieces in hexadecimal, as characters. -/
def Ipv6.hexChars (ip : Ipv6) : List Char :=
  let run := longestZeroRun 0 ip.pieces
  if 1 < run.2 then
    piecesText (ip.pieces.take run.1) ++ [':', ':'] ++ piecesText (ip.pieces.drop (run.1 + run.2))
  else piecesText ip.pieces

/-- The text of an address, a mapped IPv4 address with its dotted quad. -/
def Ipv6.chars (ip : Ipv6) : List Char :=
  match ip.mapped? with
  | some v4 => "::ffff:".toList ++ v4.chars
  | none => ip.hexChars

/-- The text of an address. -/
def Ipv6.text (ip : Ipv6) : String := String.ofList ip.chars

/-! ### Reading. -/

/-- One piece: one to four hexadecimal digits. -/
def piece? (cs : List Char) : Option UInt16 :=
  if 4 < cs.length then none else (hexadecimal? cs).map UInt16.ofNat

/-- A list of pieces with colons between them.  With `quad`, the last of them
may be a dotted quad, which counts for two. -/
def pieceList? (quad : Bool) : List (List Char) → Option (List UInt16)
  | [] => some []
  | [last] =>
      match piece? last with
      | some p => some [p]
      | none =>
          if quad then
            (Ipv4.parse? last).map fun ip => joinOctets [ip.a, ip.b, ip.c, ip.d]
          else none
  | group :: groups =>
      match piece? group, pieceList? quad groups with
      | some p, some ps => some (p :: ps)
      | _, _ => none

/-- The pieces of one side of `::`, where no characters mean no pieces. -/
def side? (quad : Bool) (cs : List Char) : Option (List UInt16) :=
  if cs = [] then some [] else pieceList? quad (splitAt ':' cs)

/-- What stands before and after the first `::`. -/
def cutDoubleColon? : List Char → Option (List Char × List Char)
  | ':' :: ':' :: rest => some ([], rest)
  | c :: rest => (cutDoubleColon? rest).map fun p => (c :: p.1, p.2)
  | [] => none

/-- The address that a text stands for. -/
def Ipv6.parse? (cs : List Char) : Option Ipv6 :=
  match cutDoubleColon? cs with
  | none => (side? true cs).bind Ipv6.ofPieces?
  | some (left, right) =>
      match side? false left, side? true right with
      | some l, some r =>
          if l.length + r.length < 8 then
            Ipv6.ofPieces? (l ++ List.replicate (8 - l.length - r.length) 0 ++ r)
          else none
      | _, _ => none

/-! ## §3. Addresses of either family, with and without a port. -/

/-- An internet address of either family. -/
inductive Ip where
  | v4 (ip : Ipv4)
  | v6 (ip : Ipv6)
  deriving Repr, DecidableEq

/-- The text of an address of either family. -/
def Ip.text : Ip → String
  | .v4 ip => ip.text
  | .v6 ip => ip.text

/-- The address that a text without brackets stands for. -/
def Ip.parse? (cs : List Char) : Option Ip :=
  match Ipv4.parse? cs with
  | some ip => some (.v4 ip)
  | none => (Ipv6.parse? cs).map .v6

/-- An address with a port. -/
structure Endpoint where
  ip : Ip
  port : UInt16
  deriving Repr, DecidableEq

/-- The text of an endpoint. -/
def Endpoint.text (e : Endpoint) : String :=
  match e.ip with
  | .v4 ip => s!"{ip.text}:{e.port.toNat}"
  | .v6 ip => s!"[{ip.text}]:{e.port.toNat}"

/-- A port number: decimal digits, at most 65535. -/
def port? (cs : List Char) : Option UInt16 :=
  match decimal? cs with
  | some n => if n ≤ 65535 then some (UInt16.ofNat n) else none
  | none => none

/-- The endpoint that a text stands for. -/
def Endpoint.parse? (cs : List Char) : Option Endpoint :=
  match cutLast? ':' cs with
  | none => none
  | some (host, port) =>
      match port? port with
      | none => none
      | some p =>
          match host with
          | '[' :: rest =>
              if rest.getLast? = some ']' then
                (Ipv6.parse? rest.dropLast).map fun ip => ⟨.v6 ip, p⟩
              else none
          | _ => (Ipv4.parse? host).map fun ip => ⟨.v4 ip, p⟩

end LinkLayer

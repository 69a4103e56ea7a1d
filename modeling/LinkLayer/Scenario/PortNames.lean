/-
  LinkLayer.Scenario.PortNames
  ────────────────────────────
  **NAMES FOR PORTS.**

  Which port a listener gets is left to chance.  A record of runs that is to
  be the same every time therefore has names for ports: `$NAME` is the port
  of the listener with that name.

    • `fill` puts the ports for the names, `hide` the names for the ports.
    • Only ports of the addresses 127.0.0.0 to 127.0.0.255 are hidden, and
      only those from 1100 on; a port without a name becomes `$PORT`.
-/
import LinkLayer.Named
import LinkLayer.Net.Ip
import LinkLayer.Text.Basic

namespace LinkLayer

open LinkLayer.Text

/-- The endpoints of listeners, by the listeners' names. -/
abbrev PortNames := Named Endpoint

namespace PortNames

/-! ## §1. From names to ports. -/

/-- The entries, those with long names first. -/
def longestFirst (p : PortNames) : List (String × Endpoint) :=
  p.rows.mergeSort fun a b => b.1.length ≤ a.1.length

/-- The port of the first name with which a text begins, and what is left of
the text. -/
def portAt? (cs : List Char) : List (String × Endpoint) → Option (UInt16 × List Char)
  | [] => none
  | (name, e) :: rest =>
      match behind? name.toList cs with
      | some left => some (e.port, left)
      | none => portAt? cs rest

/-- Put ports for names, for at most a number of characters. -/
def fillChars (entries : List (String × Endpoint)) : Nat → List Char → List Char
  | 0, cs => cs
  | _, [] => []
  | fuel + 1, c :: cs =>
      match if c = '$' then portAt? cs entries else none with
      | some (port, left) => decimalText port.toNat ++ fillChars entries fuel left
      | none => c :: fillChars entries fuel cs

/-- Put the ports for the names in a text. -/
def fill (p : PortNames) (text : String) : String :=
  String.ofList (fillChars p.longestFirst text.length text.toList)

/-! ## §2. From ports to names. -/

/-- The smallest port that is hidden. -/
def hiddenFrom : Nat := 1100

/-- The name that stands for an endpoint: of several the first in order. -/
def nameOf (p : PortNames) (octet port : Nat) : String :=
  let named := p.rows.filter fun entry =>
    entry.2.ip = .v4 ⟨127, 0, 0, UInt8.ofNat octet⟩ && entry.2.port.toNat = port
  ((sortTexts (named.map (·.1))).head?).getD "PORT"

/-- The address and the port with which a text begins, and what is left of
the text. -/
def loopbackAt? (cs : List Char) : Option (Nat × Nat × List Char) := do
  let cs ← behind? "127.0.0.".toList cs
  let octet ← decimal? (cs.takeWhile isDigit)
  let cs ← behind? [':'] (cs.dropWhile isDigit)
  let port ← decimal? (cs.takeWhile isDigit)
  if octet ≤ 255 && hiddenFrom ≤ port then some (octet, port, cs.dropWhile isDigit) else none

/-- Put names for ports, for at most a number of characters. -/
def hideChars (p : PortNames) : Nat → List Char → List Char
  | 0, cs => cs
  | _, [] => []
  | fuel + 1, c :: cs =>
      match loopbackAt? (c :: cs) with
      | some (octet, port, left) =>
          s!"127.0.0.{octet}:${p.nameOf octet port}".toList ++ p.hideChars fuel left
      | none => c :: p.hideChars fuel cs

/-- Put the names for the ports in a text. -/
def hide (p : PortNames) (text : String) : String :=
  String.ofList (p.hideChars text.length text.toList)

end PortNames

end LinkLayer

/-
  LinkLayer.Toml.Number
  ─────────────────────
  **NUMBERS.**

  An integer is decimal, with an optional sign and without leading zeros, or
  hexadecimal, octal or binary, with a lowercase mark and without a sign.
  Single underscores may stand between digits.  It has to fit into
  sixty-four bits.  A number with a fraction or an exponent is a fraction;
  it may not be so large that the nearest double is infinite.
-/
import LinkLayer.Toml.Item
import LinkLayer.Toml.Scan

namespace LinkLayer.Toml

open LinkLayer.Text

/-! ## §1. Digits. -/

/-- Further digits, with underscores between them.  An underscore needs a
digit behind it. -/
def moreDigits (isOk : Char → Bool) : Scan (List Char)
  | '_' :: d :: rest =>
      if isOk d then (moreDigits isOk rest).map fun p => (d :: p.1, p.2) else none
  | ['_'] => none
  | c :: rest =>
      if isOk c then (moreDigits isOk rest).map fun p => (c :: p.1, p.2)
      else some ([], c :: rest)
  | [] => some ([], [])

/-- Digits with underscores between them, at least one. -/
def digits (isOk : Char → Bool) : Scan (List Char)
  | c :: rest =>
      if isOk c then (moreDigits isOk rest).map fun p => (c :: p.1, p.2) else none
  | [] => none

/-- The digits of a decimal integer: if the first is a zero, it is the only
one. -/
def wholeDigits : Scan (List Char)
  | '0' :: rest => some (['0'], rest)
  | cs => digits isDigit cs

/-- A sign: whether it is a minus. -/
def sign : List Char → Bool × List Char
  | '-' :: rest => (true, rest)
  | '+' :: rest => (false, rest)
  | cs => (false, cs)

/-! ## §2. Integers. -/

/-- An octal digit. -/
def isOctal (c : Char) : Bool := '0' ≤ c && c ≤ '7'

/-- A binary digit. -/
def isBinary (c : Char) : Bool := c = '0' || c = '1'

/-- The integer with a sign and an absolute value, if it fits. -/
def signed? (isNegative : Bool) (n : Nat) : Option Item :=
  if isNegative then
    if n ≤ Nat.pow 2 63 then some (.integer (-n)) else none
  else
    if n < Nat.pow 2 63 then some (.integer n) else none

/-- An integer of some base, behind its mark. -/
def based (base : Nat) (isOk : Char → Bool) : Scan Item := fun cs =>
  match digits isOk cs with
  | none => none
  | some (ds, rest) => (signed? false (digitsValue base ds)).map (·, rest)

/-! ## §3. Fractions. -/

/-- The least number whose nearest double is infinite. -/
def overflowBound : Nat := Nat.pow 2 1024 - Nat.pow 2 970

/-- Whether digits, read as an integer and multiplied by a power of ten, make
a number whose nearest double is infinite. -/
def isTooLarge (ds : List Char) (exponent : Int) : Bool :=
  let ds := ds.dropWhile (· = '0')
  let magnitude : Int := ds.length + exponent
  if ds = [] || magnitude < 300 then false
  else if 320 < magnitude then true
  else if exponent < 0 then overflowBound * Nat.pow 10 exponent.natAbs ≤ decimalValue ds
  else overflowBound ≤ decimalValue ds * Nat.pow 10 exponent.natAbs

/-- An exponent, behind its mark. -/
def exponent : Scan Int := fun cs =>
  let (isNegative, cs) := sign cs
  (digits isDigit cs).map fun p =>
    (if isNegative then -(decimalValue p.1 : Int) else decimalValue p.1, p.2)

/-- An exponent, if there is one. -/
def exponentOrNone : Scan (Option Int)
  | 'e' :: rest | 'E' :: rest => (exponent rest).map fun p => (some p.1, p.2)
  | cs => some (none, cs)

/-- A fraction with a sign, the digits before and behind its point, and an
exponent, if it is not too large.  Large negative numbers are let through. -/
def fraction? (isNegative : Bool) (whole part : List Char) (exponent : Int) : Option Item :=
  if !isNegative && isTooLarge (whole ++ part) (exponent - part.length) then none
  else some .fraction

/-- What follows the digits of a decimal number: nothing, a fraction or an
exponent. -/
def decimalTail (isNegative : Bool) (whole : List Char) : Scan Item
  | '.' :: rest =>
      match digits isDigit rest with
      | none => none
      | some (part, rest) =>
          match exponentOrNone rest with
          | none => none
          | some (e, rest) => (fraction? isNegative whole part (e.getD 0)).map (·, rest)
  | cs =>
      match exponentOrNone cs with
      | none => none
      | some (some e, rest) => (fraction? isNegative whole [] e).map (·, rest)
      | some (none, rest) => (signed? isNegative (decimalValue whole)).map (·, rest)

/-- A decimal number, or a word that stands for an infinite number or for
none, behind the sign. -/
def unsigned (isNegative : Bool) : Scan Item
  | 'i' :: 'n' :: 'f' :: rest => some (.fraction, rest)
  | 'n' :: 'a' :: 'n' :: rest => some (.fraction, rest)
  | cs =>
      match wholeDigits cs with
      | none => none
      | some (whole, rest) => decimalTail isNegative whole rest

/-! ## §4. Numbers. -/

/-- A number. -/
def number : Scan Item
  | '0' :: 'x' :: rest => based 16 isHexDigit rest
  | '0' :: 'o' :: rest => based 8 isOctal rest
  | '0' :: 'b' :: rest => based 2 isBinary rest
  | cs => unsigned (sign cs).1 (sign cs).2

end LinkLayer.Toml

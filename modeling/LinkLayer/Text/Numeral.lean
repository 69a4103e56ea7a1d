/-
  LinkLayer.Text.Numeral
  ──────────────────────
  **NUMERALS.**

  Reading of numerals in base ten and sixteen, and splitting of character
  lists at a separator.  Signs and bounds belong to the formats that use
  them; here a numeral is a non-empty list of digits.
-/

namespace LinkLayer.Text

/-! ## §1. Digits and letters. -/

/-- A decimal digit. -/
def isDigit (c : Char) : Bool := '0' ≤ c && c ≤ '9'

/-- An ASCII letter of either case. -/
def isLetter (c : Char) : Bool := ('a' ≤ c && c ≤ 'z') || ('A' ≤ c && c ≤ 'Z')

/-- An ASCII letter in its small form; any other character as it is. -/
def lowerLetter (c : Char) : Char :=
  if 'A' ≤ c ∧ c ≤ 'Z' then Char.ofNat (c.toNat + 32) else c

/-- The value of a hexadecimal digit, of either case. -/
def hexValue? (c : Char) : Option Nat :=
  if '0' ≤ c ∧ c ≤ '9' then some (c.toNat - 48)
  else if 'a' ≤ c ∧ c ≤ 'f' then some (c.toNat - 87)
  else if 'A' ≤ c ∧ c ≤ 'F' then some (c.toNat - 55)
  else none

/-- A hexadecimal digit. -/
def isHexDigit (c : Char) : Bool := (hexValue? c).isSome

/-! ## §2. Numerals. -/

/-- The value of a list of decimal digits, most significant first. -/
def decimalValue (ds : List Char) : Nat :=
  ds.foldl (fun n d => n * 10 + (d.toNat - 48)) 0

/-- The value of a non-empty list of decimal digits. -/
def decimal? (cs : List Char) : Option Nat :=
  if cs ≠ [] ∧ cs.all isDigit then some (decimalValue cs) else none

/-- The value of a list of digits of a base up to sixteen. -/
def digitsValue (base : Nat) (ds : List Char) : Nat :=
  ds.foldl (fun n d => n * base + (hexValue? d).getD 0) 0

/-- The value of a non-empty list of hexadecimal digits. -/
def hexadecimal? (cs : List Char) : Option Nat :=
  if cs ≠ [] ∧ cs.all isHexDigit then some (digitsValue 16 cs) else none

/-- The value of a decimal numeral with an optional plus sign, if it is at
most `bound`.  Leading zeros are allowed. -/
def boundedDecimal? (bound : Nat) (cs : List Char) : Option Nat :=
  let digits := match cs with
    | '+' :: rest => rest
    | _ => cs
  match decimal? digits with
  | some n => if n ≤ bound then some n else none
  | none => none

/-! ## §3. Splitting. -/

/-- The parts of a list between the separators: one more than there are
separators. -/
def splitAt (sep : Char) : List Char → List (List Char)
  | [] => [[]]
  | c :: cs =>
      if c = sep then [] :: splitAt sep cs
      else
        match splitAt sep cs with
        | [] => [[c]]
        | part :: parts => (c :: part) :: parts

/-- What stands before and after the first separator. -/
def cutFirst? (sep : Char) : List Char → Option (List Char × List Char)
  | [] => none
  | c :: cs =>
      if c = sep then some ([], cs)
      else (cutFirst? sep cs).map fun p => (c :: p.1, p.2)

/-- What stands before and after the last separator. -/
def cutLast? (sep : Char) (cs : List Char) : Option (List Char × List Char) :=
  (cutFirst? sep cs.reverse).map fun p => (p.2.reverse, p.1.reverse)

end LinkLayer.Text

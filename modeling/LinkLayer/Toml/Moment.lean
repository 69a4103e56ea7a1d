/-
  LinkLayer.Toml.Moment
  ─────────────────────
  **DATES AND TIMES.**

  A date, a time of the day, or a date with a time behind a `T` or a blank,
  which may have an offset from universal time.  Days have to exist in their
  month; a minute may have a leap second.
-/
import LinkLayer.Toml.Item
import LinkLayer.Toml.Scan

namespace LinkLayer.Toml

open LinkLayer.Text

/-! ## §1. Fields. -/

/-- Two digits that are within bounds. -/
def twoDigits (low high : Nat) : Scan Nat
  | a :: b :: rest =>
      match decimal? [a, b] with
      | some n => if low ≤ n ∧ n ≤ high then some (n, rest) else none
      | none => none
  | _ => none

/-- A certain character. -/
def mark (c : Char) : List Char → Option (List Char)
  | d :: rest => if d = c then some rest else none
  | [] => none

/-- Whether a year has a leap day. -/
def isLeapYear (year : Nat) : Bool := year % 4 = 0 && (year % 100 ≠ 0 || year % 400 = 0)

/-- The number of days of a month. -/
def daysIn (year month : Nat) : Nat :=
  if month = 2 then (if isLeapYear year then 29 else 28)
  else if month ∈ [4, 6, 9, 11] then 30
  else 31

/-! ## §2. Dates and times. -/

/-- A date, behind its year and a hyphen. -/
def restOfDate (year : Nat) (cs : List Char) : Option (List Char) := do
  let (month, cs) ← twoDigits 1 12 cs
  let cs ← mark '-' cs
  let (_, cs) ← twoDigits 1 (daysIn year month) cs
  return cs

/-- Fractions of a second, if there are any. -/
def secondFraction (cs : List Char) : Option (List Char) :=
  match cs with
  | '.' :: c :: rest => if isDigit c then some (rest.dropWhile isDigit) else some cs
  | _ => some cs

/-- A time of the day, behind its hour and a colon. -/
def restOfTime (cs : List Char) : Option (List Char) := do
  let (_, cs) ← twoDigits 0 59 cs
  let cs ← mark ':' cs
  let (_, cs) ← twoDigits 0 60 cs
  secondFraction cs

/-- An offset, if there is one. -/
def offset (cs : List Char) : Option (List Char) :=
  match cs with
  | 'Z' :: rest | 'z' :: rest => some rest
  | '+' :: rest | '-' :: rest => do
      let (_, cs) ← twoDigits 0 23 rest
      let cs ← mark ':' cs
      let (_, cs) ← twoDigits 0 59 cs
      return cs
  | _ => some cs

/-- What follows an hour and its colon, if the characters begin with them. -/
def hour? (cs : List Char) : Option (List Char) :=
  (twoDigits 0 23 cs).bind fun p => mark ':' p.2

/-- The time behind a date, if there is one. -/
def timeBehindDate (cs : List Char) : Option (List Char) :=
  match cs with
  | c :: rest =>
      if c = 'T' || c = 't' || c = ' ' then
        match hour? rest with
        | some rest => (restOfTime rest).bind offset
        | none => some cs
      else some cs
  | [] => some []

/-- What follows a year and its hyphen, with the year, if the characters begin
with them. -/
def year? : List Char → Option (Nat × List Char)
  | a :: b :: c :: d :: '-' :: rest => (decimal? [a, b, c, d]).map (·, rest)
  | _ => none

/-- A date or a time, if the characters begin like one.  The inner result is
`none` for one that is malformed. -/
def moment? (cs : List Char) : Option (Option (Item × List Char)) :=
  match year? cs with
  | some (year, rest) =>
      some (((restOfDate year rest).bind timeBehindDate).map (Item.moment, ·))
  | none => (hour? cs).map fun rest => (restOfTime rest).map (Item.moment, ·)

end LinkLayer.Toml

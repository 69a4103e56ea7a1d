/-
  LinkLayer.Uri.Path
  ──────────────────
  **THE NORMALISED PATH OF A URI.**

  A path is a list of segments.  A single-dot segment goes nowhere, and a
  double-dot segment removes the segment before it, unless that one begins
  with a drive, such as `c:` or `c:\x`.  Either of them at the end of a path
  leaves an empty last segment.
-/
import LinkLayer.Uri.Percent

namespace LinkLayer.Uri

open LinkLayer.Text

/-! ## §1. Segments with a meaning of their own. -/

/-- A dot, plain or escaped, at the head of a segment: what follows it. -/
def afterDot? : List Char → Option (List Char)
  | '.' :: rest => some rest
  | '%' :: '2' :: 'e' :: rest => some rest
  | '%' :: '2' :: 'E' :: rest => some rest
  | _ => none

/-- A segment that is one dot. -/
def isSingleDot (seg : List Char) : Bool := afterDot? seg = some []

/-- A segment that is two dots. -/
def isDoubleDot (seg : List Char) : Bool := (afterDot? seg).bind afterDot? = some []

/-- A letter with a colon or a bar. -/
def isDriveLetter : List Char → Bool
  | [c, m] => isLetter c && (m = ':' || m = '|')
  | _ => false

/-- A segment that begins with a drive letter, and has a backslash behind it
if anything. -/
def hasDrive (seg : List Char) : Bool :=
  isDriveLetter (seg.take 2) && (seg.drop 2).head?.all (· = '\\')

/-! ## §2. Normalisation. -/

/-- Remove the last segment, unless it begins with a drive.  Segments are
listed last first. -/
def popSegment : List (List Char) → List (List Char)
  | [] => []
  | seg :: before => if hasDrive seg then seg :: before else before

/-- Go through the segments; `done` lists those before, last first. -/
def walkSegments (done : List (List Char)) : List (List Char) → List (List Char)
  | [] => done.reverse
  | [seg] =>
      if isDoubleDot seg then ([] :: popSegment done).reverse
      else if isSingleDot seg then ([] :: done).reverse
      else (seg :: done).reverse
  | seg :: rest =>
      if isDoubleDot seg then walkSegments (popSegment done) rest
      else if isSingleDot seg then walkSegments done rest
      else walkSegments (seg :: done) rest

/-- The segments of a path; a slash at its head starts the first one. -/
def segments (cs : List Char) : List (List Char) :=
  let body := match cs with
    | '/' :: rest => rest
    | _ => cs
  walkSegments [] ((splitAt '/' body).map (percentEncode pathSet))

/-- Segments with a slash before each. -/
def joinSegments (segs : List (List Char)) : List Char := segs.flatMap ('/' :: ·)

/-- The normalised text of a path; a path without characters stays so. -/
def normalPath (cs : List Char) : List Char :=
  if cs = [] then [] else joinSegments (segments cs)

/-- The first segment of a path text that has characters. -/
def firstSegment? (path : List Char) : Option (List Char) :=
  (splitAt '/' path).find? (· ≠ [])

end LinkLayer.Uri

/-
  LinkLayer.Text.Bytes
  ────────────────────
  **BYTE STRINGS AND THEIR UTF-8 READING.**

  A byte string is a list of octets.  Text goes to bytes through its UTF-8
  form (`utf8`), and bytes come back to text in two ways:

    • `utf8Decode?` accepts exactly well-formed UTF-8,
    • `utf8Lossy` accepts anything and puts U+FFFD in the place of each
      maximal ill-formed run, as the Unicode standard recommends.
-/

namespace LinkLayer

/-! ## §1. Bytes and text. -/

/-- A string of octets, first octet first. -/
abbrev Bytes := List UInt8

/-- The UTF-8 octets of a list of characters. -/
def utf8Chars (cs : List Char) : Bytes := cs.flatMap String.utf8EncodeChar

/-- The UTF-8 octets of a text. -/
def utf8 (s : String) : Bytes := utf8Chars s.toList

/-- A continuation octet carries six payload bits under the marker `10`. -/
def isContinuation (b : UInt8) : Bool := 0x80 ≤ b && b ≤ 0xBF

/-- The payload of a continuation octet. -/
def payload (b : UInt8) : Nat := b.toNat % 64

/-! ## §2. Reading one character. -/

/-- What stands at the head of a byte string: a character with the octets
after it, or an ill-formed run with the octets after it. -/
inductive Utf8Head where
  | char (c : Char) (rest : Bytes)
  | bad (rest : Bytes)
  deriving Repr, DecidableEq

/-- The range that the second octet must fall in, by the first octet of a
three-octet form.  It keeps out overlong forms and surrogates. -/
def secondOfThree (b : UInt8) : UInt8 × UInt8 :=
  if b = 0xE0 then (0xA0, 0xBF) else if b = 0xED then (0x80, 0x9F) else (0x80, 0xBF)

/-- The range that the second octet must fall in, by the first octet of a
four-octet form.  It keeps out overlong forms and values past U+10FFFF. -/
def secondOfFour (b : UInt8) : UInt8 × UInt8 :=
  if b = 0xF0 then (0x90, 0xBF) else if b = 0xF4 then (0x80, 0x8F) else (0x80, 0xBF)

/-- Whether an octet lies in a closed range. -/
def inRange (r : UInt8 × UInt8) (b : UInt8) : Bool := r.1 ≤ b && b ≤ r.2

/-- Read a two-octet form after its first octet. -/
def headTwo (b : UInt8) : Bytes → Utf8Head
  | [] => .bad []
  | c :: rest =>
      if isContinuation c then
        .char (Char.ofNat (b.toNat % 32 * 64 + payload c)) rest
      else .bad (c :: rest)

/-- Read a three-octet form after its first octet. -/
def headThree (b : UInt8) : Bytes → Utf8Head
  | [] => .bad []
  | c :: rest =>
      if inRange (secondOfThree b) c then
        match rest with
        | [] => .bad []
        | d :: rest' =>
            if isContinuation d then
              .char (Char.ofNat ((b.toNat % 16 * 64 + payload c) * 64 + payload d)) rest'
            else .bad (d :: rest')
      else .bad (c :: rest)

/-- Read a four-octet form after its first octet. -/
def headFour (b : UInt8) : Bytes → Utf8Head
  | [] => .bad []
  | c :: rest =>
      if inRange (secondOfFour b) c then
        match rest with
        | [] => .bad []
        | d :: rest' =>
            if isContinuation d then
              match rest' with
              | [] => .bad []
              | e :: rest'' =>
                  if isContinuation e then
                    .char (Char.ofNat
                      (((b.toNat % 8 * 64 + payload c) * 64 + payload d) * 64 + payload e)) rest''
                  else .bad (e :: rest'')
            else .bad (d :: rest')
      else .bad (c :: rest)

/-- Read what stands after a first octet `b`. -/
def utf8Head (b : UInt8) (rest : Bytes) : Utf8Head :=
  if b < 0x80 then .char (Char.ofNat b.toNat) rest
  else if 0xC2 ≤ b && b ≤ 0xDF then headTwo b rest
  else if 0xE0 ≤ b && b ≤ 0xEF then headThree b rest
  else if 0xF0 ≤ b && b ≤ 0xF4 then headFour b rest
  else .bad rest

/-- The octets left after the head of a byte string. -/
def Utf8Head.rest : Utf8Head → Bytes
  | .char _ rest => rest
  | .bad rest => rest

theorem headTwo_rest_le (b : UInt8) (bs : Bytes) : (headTwo b bs).rest.length ≤ bs.length := by
  cases bs with
  | nil => simp [headTwo, Utf8Head.rest]
  | cons c rest => simp only [headTwo]; split <;> simp [Utf8Head.rest]

theorem headThree_rest_le (b : UInt8) (bs : Bytes) :
    (headThree b bs).rest.length ≤ bs.length := by
  cases bs with
  | nil => simp [headThree, Utf8Head.rest]
  | cons c bs =>
      cases bs with
      | nil => simp only [headThree]; split <;> simp [Utf8Head.rest]
      | cons d rest =>
          simp only [headThree]
          split
          · split
            · simp only [Utf8Head.rest, List.length_cons]; omega
            · simp [Utf8Head.rest]
          · simp [Utf8Head.rest]

theorem headFour_rest_le (b : UInt8) (bs : Bytes) :
    (headFour b bs).rest.length ≤ bs.length := by
  match bs with
  | [] => simp [headFour, Utf8Head.rest]
  | [c] => simp only [headFour]; split <;> simp [Utf8Head.rest]
  | [c, d] =>
      simp only [headFour]
      split
      · split <;> simp [Utf8Head.rest]
      · simp [Utf8Head.rest]
  | c :: d :: e :: rest =>
      simp only [headFour]
      split
      · split
        · split <;> simp only [Utf8Head.rest, List.length_cons] <;> omega
        · simp [Utf8Head.rest]
      · simp [Utf8Head.rest]

/-- Reading a head never lengthens what is left. -/
theorem utf8Head_rest_le (b : UInt8) (rest : Bytes) :
    (utf8Head b rest).rest.length ≤ rest.length := by
  unfold utf8Head
  split
  · exact Nat.le_refl _
  split
  · exact headTwo_rest_le b rest
  split
  · exact headThree_rest_le b rest
  split
  · exact headFour_rest_le b rest
  · exact Nat.le_refl _

/-! ## §3. Reading a whole byte string. -/

/-- The text of a byte string, if all of it is well-formed UTF-8. -/
def utf8Decode? : Bytes → Option (List Char)
  | [] => some []
  | b :: bs =>
      match _reads : utf8Head b bs with
      | .char c rest => (utf8Decode? rest).map (c :: ·)
      | .bad _ => none
termination_by bs => bs.length
decreasing_by
  have shorter := utf8Head_rest_le b bs
  rw [_reads] at shorter
  exact Nat.lt_succ_of_le shorter

/-- The text of a byte string, each ill-formed run read as U+FFFD. -/
def utf8Lossy : Bytes → List Char
  | [] => []
  | b :: bs =>
      match _reads : utf8Head b bs with
      | .char c rest => c :: utf8Lossy rest
      | .bad rest => '\uFFFD' :: utf8Lossy rest
termination_by bs => bs.length
decreasing_by all_goals
  have shorter := utf8Head_rest_le b bs
  rw [_reads] at shorter
  exact Nat.lt_succ_of_le shorter

end LinkLayer

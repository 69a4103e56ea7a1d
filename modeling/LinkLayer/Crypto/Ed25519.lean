/-
  LinkLayer.Crypto.Ed25519
  ────────────────────────
  **PUBLIC KEYS ON THE EDWARDS CURVE 25519.**

  A seed is hashed, the first half of the hash is clamped to a scalar, and
  the public key is the compressed multiple of the base point.  Points are in
  extended coordinates `(X : Y : Z : T)` with `x = X/Z`, `y = Y/Z` and
  `xy = T/Z`, over the integers modulo `2^255 - 19`.
-/
import LinkLayer.Crypto.Sha512

namespace LinkLayer.Crypto

/-! ## §1. The field. -/

/-- The prime of the field. -/
def fieldPrime : Nat := Nat.pow 2 255 - 19

/-- The sum of two field elements. -/
def fieldAdd (a b : Nat) : Nat := (a + b) % fieldPrime

/-- The difference of two field elements. -/
def fieldSub (a b : Nat) : Nat := (a + fieldPrime - b) % fieldPrime

/-- The product of two field elements. -/
def fieldMul (a b : Nat) : Nat := a * b % fieldPrime

/-- A power of a field element; `n` bounds the number of bits of the
exponent. -/
def fieldPow (a : Nat) : Nat → Nat → Nat
  | 0, _ => 1
  | n + 1, e =>
      let half := fieldPow (fieldMul a a) n (e / 2)
      if e % 2 = 1 then fieldMul a half else half

/-- The inverse of a field element. -/
def fieldInv (a : Nat) : Nat := fieldPow a 255 (fieldPrime - 2)

/-! ## §2. The curve. -/

/-- Twice the constant of the curve. -/
def curveTwoD : Nat :=
  0x2406d9dc56dffce7198e80f2eef3d13000e0149a8283b156ebd69b9426b2f159

/-- A point in extended coordinates. -/
structure CurvePoint where
  x : Nat
  y : Nat
  z : Nat
  t : Nat
  deriving Repr, DecidableEq

/-- The neutral point. -/
def CurvePoint.zero : CurvePoint := ⟨0, 1, 1, 0⟩

/-- The sum of two points. -/
def CurvePoint.add (p q : CurvePoint) : CurvePoint :=
  let a := fieldMul (fieldSub p.y p.x) (fieldSub q.y q.x)
  let b := fieldMul (fieldAdd p.y p.x) (fieldAdd q.y q.x)
  let c := fieldMul (fieldMul p.t curveTwoD) q.t
  let d := fieldMul (fieldMul p.z 2) q.z
  let e := fieldSub b a
  let f := fieldSub d c
  let g := fieldAdd d c
  let h := fieldAdd b a
  ⟨fieldMul e f, fieldMul g h, fieldMul f g, fieldMul e h⟩

/-- A multiple of a point; `n` bounds the number of bits of the scalar. -/
def CurvePoint.mul (p : CurvePoint) : Nat → Nat → CurvePoint
  | 0, _ => .zero
  | n + 1, k =>
      let rest := (p.add p).mul n (k / 2)
      if k % 2 = 1 then p.add rest else rest

/-- The base point. -/
def basePoint : CurvePoint :=
  let x := 0x216936d3cd6e53fec0a4e231fdd6dc5c692cc7609525a7b2c9562d608f25d51a
  let y := 0x6666666666666666666666666666666666666666666666666666666666666658
  ⟨x, y, 1, fieldMul x y⟩

/-! ## §3. Octets. -/

/-- The number of octets, low octet first. -/
def fromOctets (bs : Bytes) : Nat := bs.foldr (fun b n => b.toNat + 256 * n) 0

/-- The `n` low octets of a number, low octet first. -/
def toOctets : Nat → Nat → Bytes
  | 0, _ => []
  | n + 1, k => UInt8.ofNat k :: toOctets n (k / 256)

/-- The octet count of what `toOctets` makes. -/
theorem toOctets_length (n k : Nat) : (toOctets n k).length = n := by
  induction n generalizing k with
  | zero => rfl
  | succ n ih => simp [toOctets, ih]

/-- The compressed form of a point: its `y`, with the parity of its `x` in
the top bit. -/
def CurvePoint.compress (p : CurvePoint) : Bytes :=
  let inverse := fieldInv p.z
  let x := fieldMul p.x inverse
  let y := fieldMul p.y inverse
  toOctets 32 (y + x % 2 * Nat.pow 2 255)

/-- Clamp a number of 256 bits: clear the three low bits and the top bit, set
the bit below the top. -/
def clamp (n : Nat) : Nat := n % Nat.pow 2 254 / 8 * 8 + Nat.pow 2 254

/-- The public key of a seed. -/
def publicKey (seed : Bytes) : Bytes :=
  (basePoint.mul 255 (clamp (fromOctets ((sha512 seed).take 32)))).compress

/-- A public key has thirty-two octets. -/
theorem publicKey_length (seed : Bytes) : (publicKey seed).length = 32 :=
  toOctets_length 32 _

end LinkLayer.Crypto

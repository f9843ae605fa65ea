/-!
# Binary64 numbers

A finite binary64 number, kept as its 64-bit pattern, so that equality of numbers is equality of
patterns (`0.0` and `-0.0` differ). All arithmetic is exact natural-number arithmetic followed by
one rounding to the nearest number, ties to the even significand:

    Binary64.ofRatio neg num den     the number nearest to ± num / den, or none beyond the range
    Binary64.magnitude x             the exact value of |x| as a fraction
-/

namespace Schemata

/-- A binary64 number by its bit pattern: sign, 11 exponent bits, 52 fraction bits. -/
structure Binary64 where
  bits : UInt64
  deriving DecidableEq, Repr, Inhabited

namespace Binary64

/-! ## Decoding -/

def isNegative (x : Binary64) : Bool := x.bits.toNat ≥ Nat.pow 2 63

/-- The value without its sign is `significand x * 2 ^ (scale x - 1074)`. -/
def significand (x : Binary64) : Nat :=
  let rest := x.bits.toNat % Nat.pow 2 63
  if rest / Nat.pow 2 52 = 0 then rest else rest % Nat.pow 2 52 + Nat.pow 2 52

/-- Binary exponent above the least one; subnormal numbers share scale `0`. -/
def scale (x : Binary64) : Nat := x.bits.toNat % Nat.pow 2 63 / Nat.pow 2 52 - 1

/-- The absolute value as a fraction with positive denominator. -/
def magnitude (x : Binary64) : Nat × Nat :=
  if 1074 ≤ x.scale then (x.significand * Nat.pow 2 (x.scale - 1074), 1)
  else (x.significand, Nat.pow 2 (1074 - x.scale))

def isZero (x : Binary64) : Bool := x.significand = 0

/-! ## Rounding -/

/-- The quotient rounded to the nearest integer, an exact half to the even neighbour. -/
def divNearestEven (num den : Nat) : Nat :=
  let q := num / den
  let r := num % den
  if 2 * r < den then q
  else if 2 * r > den then q + 1
  else q + q % 2

/-- The pattern with the given sign and the absolute value `m * 2 ^ (scale - 1074)`, where
`m ≤ 2 ^ 53`, and `2 ^ 52 ≤ m` unless `scale = 0`; a full significand carries into the exponent. -/
def assemble (negative : Bool) (scale m : Nat) : Option Binary64 :=
  let rest := scale * Nat.pow 2 52 + m
  if rest ≥ 2047 * Nat.pow 2 52 then none
  else some ⟨UInt64.ofNat (rest + if negative then Nat.pow 2 63 else 0)⟩

/-- The number nearest to `± num / den` (`den` positive), ties to even; none if that lies beyond
the greatest finite number. -/
def ofRatio (negative : Bool) (num den : Nat) : Option Binary64 :=
  if num = 0 then assemble negative 0 0
  else
    let top : Int := (Nat.log2 num : Int) - Nat.log2 den
    let rounded (e : Int) : Nat :=
      let s := max (e + 1022) 0
      if s ≥ 1074 then divNearestEven num (den * Nat.pow 2 (s - 1074).toNat)
      else divNearestEven (num * Nat.pow 2 (1074 - s).toNat) den
    let exact (e : Int) : Bool :=
      if e ≥ 0 then den * Nat.pow 2 e.toNat ≤ num else den ≤ num * Nat.pow 2 (-e).toNat
    let e := if exact top then top else top - 1
    assemble negative (max (e + 1022) 0).toNat (rounded e)

/-- The number nearest to a natural number below `2 ^ 1024`. -/
def ofNat (negative : Bool) (n : Nat) : Option Binary64 := ofRatio negative n 1

/-- The number nearest to an integer; integers of 64 bits are always in range. -/
def ofInt (i : Int) : Option Binary64 := ofRatio (i < 0) i.natAbs 1

/-! ## Arithmetic -/

/-- The rounded product. -/
def mul (x y : Binary64) : Option Binary64 :=
  let (a, b) := x.magnitude
  let (c, d) := y.magnitude
  ofRatio (x.isNegative != y.isNegative) (a * c) (b * d)

/-- The rounded quotient; none for a zero divisor. -/
def div (x y : Binary64) : Option Binary64 :=
  if y.isZero then none
  else
    let (a, b) := x.magnitude
    let (c, d) := y.magnitude
    ofRatio (x.isNegative != y.isNegative) (a * d) (b * c)

/-- The number with its sign changed. -/
def neg (x : Binary64) : Binary64 := ⟨x.bits ^^^ 0x8000000000000000⟩

/-! ## Order -/

def signedRatio (x : Binary64) : Int × Nat :=
  let (a, b) := x.magnitude
  (if x.isNegative then -(a : Int) else a, b)

/-- Numerical order of two signed fractions with positive denominators. -/
def compareRatio (x y : Int × Nat) : Ordering := compare (x.1 * y.2) (y.1 * x.2)

def isWhole (x : Binary64) : Bool :=
  let (a, b) := x.magnitude
  a % b = 0

end Binary64

end Schemata

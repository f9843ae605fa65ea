import Schemata.Json.Value

/-!
# Likeness of documents

Comparison of documents by what they say and not by how numbers are spelled: `1` and `1.0` are
alike. Numbers are compared exactly; two numbers of which one is no integer are alike when the same
binary64 number is nearest to both.
-/

namespace Schemata.Json

namespace Number

/-- The value as a fraction with a positive denominator. -/
def ratio : Number → Int × Nat
  | integer i => (i, 1)
  | double x => x.signedRatio

/-- The nearest binary64 number; integers of 64 bits are in range. -/
def toDouble : Number → Binary64
  | integer i => (Binary64.ofInt i).getD default
  | double x => x

def order (a b : Number) : Ordering := Binary64.compareRatio a.ratio b.ratio

/-- Whether a number is at most another. -/
def atMost (a b : Number) : Bool := a.order b ≠ .gt

/-- Whether a number is less than another. -/
def below (a b : Number) : Bool := a.order b = .lt

def alike (a b : Number) : Bool :=
  match a, b with
  | integer i, integer j => i = j
  | _, _ => Binary64.compareRatio a.toDouble.signedRatio b.toDouble.signedRatio = .eq

def isWhole : Number → Bool
  | integer _ => true
  | double x => x.isWhole

/-- Whether a number is a multiple of a positive divisor, by binary64 arithmetic: the remainder of
the quotient by one lies below 2 ^ -52. -/
def isMultipleOf (number divisor : Number) : Bool :=
  let item := number.toDouble
  let unit := divisor.toDouble
  let (n, d) := item.signedRatio
  let (m, e) := unit.signedRatio
  if unit.isWhole then item.isWhole && Int.tmod (n / d) (m / e) = 0
  else
    match item.div unit with
    | some quotient =>
      let (p, q) := quotient.signedRatio
      Int.tmod p q * Nat.pow 2 52 < q
    | none => (n * e) % (d * m) = 0

/-- Whether two numbers are nearer than 2 ^ -52 as binary64 numbers. -/
def isNear (a b : Number) : Bool :=
  let (p, q) := a.toDouble.signedRatio
  let (r, s) := b.toDouble.signedRatio
  (p * s - r * q).natAbs * Nat.pow 2 52 < q * s

/-- The number that is counted to, if it is a natural number however it is spelled. -/
def natural? (number : Number) : Option Nat :=
  let (n, d) := number.ratio
  if number.isWhole ∧ 0 ≤ n then some (n.toNat / d) else none

end Number

namespace Value

mutual
def alike : Value → Value → Bool
  | .null, .null => true
  | .bool a, .bool b => a == b
  | .number a, .number b => a.alike b
  | .string a, .string b => a == b
  | .array a, .array b => alikeItems a b
  | .object a, .object b => alikeMembers a b
  | _, _ => false

def alikeItems : List Value → List Value → Bool
  | [], [] => true
  | a :: as, b :: bs => alike a b && alikeItems as bs
  | _, _ => false

def alikeMembers : List (String × Value) → List (String × Value) → Bool
  | [], [] => true
  | (k, a) :: as, (l, b) :: bs => k == l && alike a b && alikeMembers as bs
  | _, _ => false
end

def allDifferent : List Value → Bool
  | [] => true
  | item :: items => !items.any (alike item) && allDifferent items

end Value

end Schemata.Json

import Schemata.Number.Binary64

/-!
# Shortest decimals

The decimal digits of a binary64 number: as few as read back to the same number, and of those the
nearest to it.

    Binary64.shortest x = (digits, point)     |x| is about 0.d₁d₂d₃… * 10 ^ point

## Algorithm

The reals that round to `x` form an interval. For 1, 2, … 17 digits the two neighbours of `|x|` on
that decimal grid are tested; the first grid with a hit wins, and of two hits the nearer.
-/

namespace Schemata.Binary64

/-- The interval of reals that round to `± x`, as numerators over one denominator: lower end, the
value, upper end, denominator, and whether the ends belong to it. -/
def roundingInterval (x : Binary64) : Nat × Nat × Nat × Nat × Bool :=
  let m := x.significand
  let closed := m % 2 = 0
  let low := if m = Nat.pow 2 52 ∧ x.scale > 0 then 4 * m - 1 else 4 * m - 2
  let k := x.scale
  if k ≥ 1076 then
    let f := Nat.pow 2 (k - 1076)
    (low * f, 4 * m * f, (4 * m + 2) * f, 1, closed)
  else (low, 4 * m, 4 * m + 2, Nat.pow 2 (1076 - k), closed)

/-- The number of decimal digits of a natural number; zero has none. -/
def digitCount (n : Nat) : Nat := if n = 0 then 0 else (Nat.toDigits 10 n).length

/-- The least `j ≤ fuel` with `den ≤ num * 10 ^ j`. -/
def leadingShift (num den : Nat) : Nat → Nat
  | 0 => 0
  | fuel + 1 => if den ≤ num then 0 else leadingShift (num * 10) den fuel + 1

/-- The decimal point of `num / den`: the value lies in `[10 ^ (p - 1), 10 ^ p)`. -/
def decimalPoint (num den : Nat) : Int :=
  if den ≤ num then digitCount (num / den)
  else 1 - (leadingShift num den 330 : Int)

/-- A digit string of `n` digits hitting the interval, with the numerator and denominator of the
grid, if there is one. -/
def hitWith (lo v hi den : Nat) (closed : Bool) (point : Int) (n : Nat) : Option Nat :=
  let exponent := point - n
  let (up, down) :=
    if exponent ≥ 0 then (Nat.pow 10 exponent.toNat, 1) else (1, Nat.pow 10 (-exponent).toNat)
  -- the grid point `d` stands for the numerator `d * up * den` over `den * down`
  let unit := up * den
  let inside (d : Nat) : Bool :=
    if closed then lo * down ≤ d * unit && d * unit ≤ hi * down
    else lo * down < d * unit && d * unit < hi * down
  let below := v * down / unit
  let above := below + 1
  match inside below, inside above with
  | true, false => some below
  | false, true => some above
  | false, false => none
  | true, true =>
    let a := v * down - below * unit
    let b := above * unit - v * down
    if a < b then some below else if b < a then some above else some (below + below % 2)

/-- The hit on the first grid of at least `n` digits that has one, with its digit count;
seventeen digits always suffice. -/
def firstHit (lo v hi den : Nat) (closed : Bool) (point : Int) (n : Nat) : Nat → Nat × Nat
  | 0 => (0, n)
  | fuel + 1 =>
    match hitWith lo v hi den closed point n with
    | some d => (d, n)
    | none => firstHit lo v hi den closed point (n + 1) fuel

def dropTrailingZeros : Nat → Nat → Nat
  | 0, d => d
  | fuel + 1, d => if d ≠ 0 ∧ d % 10 = 0 then dropTrailingZeros fuel (d / 10) else d

/-- The shortest digits of the absolute value and the place of the decimal point: the value is
about `0.d₁d₂… * 10 ^ point`. Zero is the digit `0` with point `1`. -/
def shortest (x : Binary64) : List Char × Int :=
  if x.isZero then (['0'], 1)
  else
    let (lo, v, hi, den, closed) := x.roundingInterval
    let point := decimalPoint v den
    let (d, n) := firstHit lo v hi den closed point 1 17
    -- a rounding up to a power of ten has one digit more and moves the point
    let digits := Nat.toDigits 10 d
    let point := point + (digits.length - n : Int)
    (Nat.toDigits 10 (dropTrailingZeros 20 d), point)

/-! ## Two spellings -/

def zeros (n : Nat) : List Char := List.replicate n '0'

/-- The plain positional spelling, without an exponent and without a fraction of zero. -/
def positional (x : Binary64) : String :=
  let (digits, point) := x.shortest
  let sign := if x.isNegative then ['-'] else []
  let body :=
    if point ≤ 0 then ['0', '.'] ++ zeros (-point).toNat ++ digits
    else if digits.length ≤ point.toNat then digits ++ zeros (point.toNat - digits.length)
    else digits.take point.toNat ++ ['.'] ++ digits.drop point.toNat
  String.ofList (sign ++ body)

/-- The spelling that always shows a number as a fraction: positional from `1e-5` up to below
`1e16` with at least one decimal, otherwise with a signed exponent. -/
def scientific (x : Binary64) : String :=
  let (digits, point) := x.shortest
  let sign := if x.isNegative then ['-'] else []
  let body :=
    if -5 < point ∧ point ≤ 0 then ['0', '.'] ++ zeros (-point).toNat ++ digits
    else if 0 < point ∧ point ≤ 16 then
      if digits.length ≤ point.toNat then
        digits ++ zeros (point.toNat - digits.length) ++ ['.', '0']
      else digits.take point.toNat ++ ['.'] ++ digits.drop point.toNat
    else
      let fraction := match digits.drop 1 with
        | [] => []
        | rest => '.' :: rest
      let exponent := point - 1
      let mark := if exponent < 0 then ['e', '-'] else ['e', '+']
      digits.take 1 ++ fraction ++ mark ++ Nat.toDigits 10 exponent.natAbs
  String.ofList (sign ++ body)

end Schemata.Binary64

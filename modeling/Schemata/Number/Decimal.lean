import Schemata.Number.Binary64

/-!
# Decimal numerals

The binary64 number nearest to a decimal numeral: a sign, digits with an optional point, and an
optional power of ten. Beyond the range there are the two infinities, and `nan` is one pattern.
-/

namespace Schemata.Binary64

def infinity (negative : Bool) : Binary64 := ⟨if negative then 0xFFF0000000000000 else 0x7FF0000000000000⟩

/-- No number, of a sign. -/
def nan (negative : Bool) : Binary64 := ⟨if negative then 0xFFF8000000000000 else 0x7FF8000000000000⟩

/-- Whether a pattern stands for a number and not for an infinity or for none. -/
def isFinite (x : Binary64) : Bool := x.bits.toNat % Nat.pow 2 63 < 2047 * Nat.pow 2 52

/-- Whether a pattern stands for no number. -/
def isNan (x : Binary64) : Bool := 2047 * Nat.pow 2 52 < x.bits.toNat % Nat.pow 2 63

def natOfDigits (digits : List Char) : Nat := digits.foldl (fun n c => n * 10 + (c.toNat - 48)) 0

/-- The number nearest to some digits times a power of ten; none beyond the range. Numbers of more
than 400 places before the point, or with more than 400 zeros behind it, are not worked out. -/
def ofDecimal (negative : Bool) (digits : List Char) (exponent : Int) : Option Binary64 :=
  let significant := digits.dropWhile (· = '0')
  let n := natOfDigits significant
  let places := exponent + significant.length
  if n = 0 ∨ places < -400 then ofRatio negative 0 1
  else if 400 < places then none
  else if 0 ≤ exponent then ofRatio negative (n * Nat.pow 10 exponent.toNat) 1
  else ofRatio negative n (Nat.pow 10 (-exponent).toNat)

def splitSign : List Char → Bool × List Char
  | '-' :: rest => (true, rest)
  | '+' :: rest => (false, rest)
  | rest => (false, rest)

/-- The exponent of a numeral: digits, perhaps with a sign. -/
def exponentOf? (text : List Char) : Option Int :=
  let (negative, digits) := splitSign text
  if digits.isEmpty || !digits.all Char.isDigit then none
  else
    let size := min (natOfDigits (digits.dropWhile (· = '0'))) 100000
    some (if negative then -(size : Int) else size)

/-- The parts of a numeral without its sign: the digits before the point, those behind it, and the
exponent. There is at least one digit. -/
def numeralParts? (text : List Char) : Option (List Char × List Char × Int) :=
  let whole := text.takeWhile Char.isDigit
  let behind := text.drop whole.length
  let (fraction, tail) := match behind with
    | '.' :: rest => (rest.takeWhile Char.isDigit, rest.dropWhile Char.isDigit)
    | rest => ([], rest)
  if whole.isEmpty && fraction.isEmpty then none
  else
    match tail with
    | [] => some (whole, fraction, 0)
    | mark :: exponent =>
      if mark = 'e' ∨ mark = 'E' then (exponentOf? exponent).map fun e => (whole, fraction, e) else none

/-- The number nearest to a numeral; beyond the range an infinity. Words for infinity and for no
number are numerals too, however they are capitalised. -/
def ofNumeral? (text : String) : Option Binary64 :=
  let (negative, body) := splitSign text.toList
  let word := String.ofList (body.map Char.toLower)
  if word = "inf" ∨ word = "infinity" then some (infinity negative)
  else if word = "nan" then some (nan negative)
  else
    (numeralParts? body).map fun (whole, fraction, exponent) =>
      (ofDecimal negative (whole ++ fraction) (exponent - fraction.length)).getD (infinity negative)

/-- The magnitude rounded to the nearest whole number, halves away from zero. -/
def roundedMagnitude (x : Binary64) : Nat :=
  let (n, d) := x.magnitude
  (2 * n + d) / (2 * d)

end Schemata.Binary64

import Schemata.Settings.Item
import Schemata.Json.Reader

/-!
# Scalars of TOML

Booleans, numbers, dates and times. A scalar is a word without blanks, except that one blank may
stand between a date and a time.
-/

namespace Schemata.Toml

open Schemata.Settings (Item)

/-! ## Numbers -/

/-- Digits without the underscores between them. An underscore stands between two digits only. -/
def joinDigits? (isDigit : Char → Bool) : List Char → Option (List Char)
  | [] => none
  | [c] => if isDigit c then some [c] else none
  | c :: '_' :: d :: rest =>
    if isDigit c && isDigit d then (joinDigits? isDigit (d :: rest)).map (c :: ·) else none
  | c :: d :: rest => if isDigit c then (joinDigits? isDigit (d :: rest)).map (c :: ·) else none

def digitValue (c : Char) : Nat :=
  if c.isDigit then c.toNat - 48 else if c.isLower then c.toNat - 87 else c.toNat - 55

/-- A whole number within 64 bits with a sign. -/
def integerItem? (value : Int) : Option Item :=
  if -(Nat.pow 2 63 : Int) ≤ value ∧ value < Nat.pow 2 63 then some (.integer value) else none

/-- A whole number in digits to a base, behind the mark of the base. -/
def based? (base : Nat) (isDigit : Char → Bool) (text : List Char) : Option Item :=
  (joinDigits? isDigit text).bind fun digits =>
    integerItem? ((digits.foldl (fun n c => n * base + digitValue c) 0 : Nat) : Int)

/-- The digits of a whole number, which has no zero in front. -/
def wholeDigits? (text : List Char) : Option (List Char) :=
  (joinDigits? Char.isDigit text).filter fun digits => digits.length = 1 || digits.head? ≠ some '0'

/-- A number to base ten without its sign. -/
def decimal? (negative : Bool) (text : List Char) : Option Item :=
  let isMark (c : Char) : Bool := c = 'e' || c = 'E'
  let mantissa := text.takeWhile fun c => !isMark c
  let whole := mantissa.takeWhile (· ≠ '.')
  let behind := text.drop mantissa.length
  let fraction := mantissa.drop whole.length
  if behind.isEmpty && fraction.isEmpty then
    (wholeDigits? text).bind fun digits =>
      let n : Int := Binary64.natOfDigits digits
      integerItem? (if negative then -n else n)
  else do
    let digits ← wholeDigits? whole
    let decimals ← if fraction.isEmpty then some [] else joinDigits? Char.isDigit (fraction.drop 1)
    let exponent ←
      if behind.isEmpty then some 0
      else
        let (sign, power) := Binary64.splitSign (behind.drop 1)
        (joinDigits? Char.isDigit power).bind fun power =>
          (Binary64.exponentOf? power).map fun e => if sign then -e else e
    let x ← Binary64.ofDecimal negative (digits ++ decimals) (exponent - decimals.length)
    pure (.float x)

def number? (text : List Char) : Option Item :=
  let isHex (c : Char) : Bool := (Json.hexValue? c).isSome
  match text with
  | '0' :: 'x' :: rest => based? 16 isHex rest
  | '0' :: 'o' :: rest => based? 8 (fun c => '0' ≤ c && c ≤ '7') rest
  | '0' :: 'b' :: rest => based? 2 (fun c => c = '0' || c = '1') rest
  | _ =>
    let (negative, body) := Binary64.splitSign text
    if body = "inf".toList then some (.float (Binary64.infinity negative))
    else if body = "nan".toList then some (.float (Binary64.nan negative))
    else decimal? negative body

/-! ## Dates and times -/

/-- The number that some digits stand for, if it is between limits. -/
def numberWithin? (least most : Nat) (digits : List Char) : Option Nat :=
  if digits.all Char.isDigit then
    some (Binary64.natOfDigits digits) |>.filter fun n => least ≤ n && n ≤ most
  else none

def daysIn (year month : Nat) : Nat :=
  if month = 2 then
    if (year % 4 = 0 ∧ year % 100 ≠ 0) ∨ year % 400 = 0 then 29 else 28
  else if [4, 6, 9, 11].contains month then 30 else 31

def isDate (text : List Char) : Bool :=
  match text with
  | [a, b, c, d, '-', e, f, '-', g, h] =>
    match numberWithin? 0 9999 [a, b, c, d], numberWithin? 1 12 [e, f] with
    | some year, some month => (numberWithin? 1 (daysIn year month) [g, h]).isSome
    | _, _ => false
  | _ => false

/-- Whether a text is the distance from universal time. -/
def isOffset (text : List Char) : Bool :=
  match text with
  | [sign, a, b, ':', c, d] =>
    (sign = '+' || sign = '-') && (numberWithin? 0 23 [a, b]).isSome && (numberWithin? 0 59 [c, d]).isSome
  | _ => text = ['Z'] || text = ['z']

/-- The fraction of a second as it is written again: at most nine digits, without zeros at the end. -/
def secondFraction (digits : List Char) : List Char :=
  match ((digits.take 9).reverse.dropWhile (· = '0')).reverse with
  | [] => []
  | digits => '.' :: digits

/-- A time as it is written again, with what follows it. -/
def time? (text : List Char) : Option (List Char × List Char) :=
  match text with
  | a :: b :: ':' :: c :: d :: ':' :: e :: f :: rest =>
    if (numberWithin? 0 23 [a, b]).isSome && (numberWithin? 0 59 [c, d]).isSome &&
        (numberWithin? 0 60 [e, f]).isSome then
      let clock := [a, b, ':', c, d, ':', e, f]
      match rest with
      | '.' :: behind =>
        let digits := behind.takeWhile Char.isDigit
        if digits.isEmpty then none
        else some (clock ++ secondFraction digits, behind.drop digits.length)
      | rest => some (clock, rest)
    else none
  | _ => none

/-- A date, a time, or both, as they are written again. -/
def moment? (text : List Char) : Option String :=
  match time? text with
  | some (clock, []) => some (String.ofList clock)
  | _ =>
    let date := text.take 10
    if !isDate date then none
    else
      match text.drop 10 with
      | [] => some (String.ofList date)
      | mark :: rest =>
        if mark = 'T' ∨ mark = 't' ∨ mark = ' ' then
          (time? rest).bind fun (clock, offset) =>
            if offset.isEmpty || isOffset offset then
              some (String.ofList (date ++ ['T'] ++ clock ++ offset.map Char.toUpper))
            else none
        else none

/-! ## Scalars -/

def isScalarChar (c : Char) : Bool := c.isAlphanum || "+-_.:".toList.contains c

/-- The word of a scalar, with a time behind a date and a blank. -/
def scalarWord (cs : List Char) : List Char :=
  let word := cs.takeWhile isScalarChar
  match cs.drop word.length with
  | ' ' :: d :: rest =>
    if isDate word && d.isDigit then word ++ ' ' :: (d :: rest).takeWhile isScalarChar else word
  | _ => word

def readScalar (cs : List Char) : Option (Item × List Char) :=
  let word := scalarWord cs
  let rest := cs.drop word.length
  let item :=
    if word = "true".toList then some (.bool true)
    else if word = "false".toList then some (.bool false)
    else number? word <|> (moment? word).map Item.text
  item.map fun item => (item, rest)

end Schemata.Toml

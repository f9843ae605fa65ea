import Schemata.Json.Cursor
import Schemata.Json.Value

/-!
# Numerals

Reading of JSON numbers. An integer of 64 bits is kept exactly. Any other number is the product or
quotient of its first digits, as many as fit 64 bits, and a power of ten, each rounded to binary64
before the operation and the result rounded again.
-/

namespace Schemata.Json

/-- The greatest significand that is kept digit by digit. -/
def significandBound : Nat := Nat.pow 2 64 - 1

def digit? (c : Char) : Option Nat := if c.isDigit then some (c.toNat - 48) else none

def Cursor.digit? (c : Cursor) : Option Nat := c.peek?.bind Json.digit?

/-- Whether another digit still fits the significand. -/
def fits (significand digit : Nat) : Bool := significand * 10 + digit ≤ significandBound

/-- `significand * 10 ^ exponent` by rounded powers of ten; none when it is beyond the range. -/
def scaleByPowers (significand : Binary64) (exponent : Int) : Nat → Option Binary64
  | 0 => some significand
  | fuel + 1 =>
    if exponent.natAbs ≤ 308 then do
      let power ← Binary64.ofNat false (Nat.pow 10 exponent.natAbs)
      if exponent ≥ 0 then significand.mul power else significand.div power
    else if significand.isZero then some significand
    else if exponent ≥ 0 then none
    else do
      let smaller ← significand.div (← Binary64.ofNat false (Nat.pow 10 308))
      scaleByPowers smaller (exponent + 308) fuel

/-- The number with the given sign, significand and decimal exponent. -/
def doubleOfParts (positive : Bool) (significand : Nat) (exponent : Int) : Option Binary64 := do
  let x ← scaleByPowers (← Binary64.ofNat false significand) exponent 5
  some (if positive then x else x.neg)

def countDigits : List Char → Nat
  | [] => 0
  | c :: rest => if c.isDigit then countDigits rest + 1 else 0

def Cursor.skipDigits (c : Cursor) : Cursor :=
  let n := countDigits c.rest
  ⟨c.rest.drop n, c.offset + n⟩

/-- The number of the given parts, or the fault that it is out of range. -/
def finishDouble (c : Cursor) (positive : Bool) (significand : Nat) (exponent : Int) :
    Except FaultAt (Number × Cursor) :=
  match doubleOfParts positive significand exponent with
  | some x => .ok (.double x, c)
  | none => c.behind .numberOutOfRange

/-- Adds the digits to an exponent; none as soon as it leaves 31 bits. -/
def readExponentDigits (exponent : Nat) : List Char → Nat → Option Nat × Nat
  | [], read => (some exponent, read)
  | c :: rest, read =>
    match digit? c with
    | none => (some exponent, read)
    | some d =>
      if exponent * 10 + d ≤ Nat.pow 2 31 - 1 then
        readExponentDigits (exponent * 10 + d) rest (read + 1)
      else (none, read + 1)

/-- The exponent part, at its letter. -/
def readExponent (c : Cursor) (positive : Bool) (significand : Nat) (start : Int) :
    Except FaultAt (Number × Cursor) :=
  let c := c.advance
  let (up, c) := match c.peek? with
    | some '+' => (true, c.advance)
    | some '-' => (false, c.advance)
    | _ => (true, c)
  match c.peek? with
  | none => c.behind .endInValue
  | some first =>
    match digit? first with
    | none => .error ⟨.invalidNumber, c.offset + 1⟩
    | some d =>
      let (exponent, n) := readExponentDigits d (c.rest.drop 1) 1
      let after : Cursor := ⟨c.rest.drop n, c.offset + n⟩
      match exponent with
      | some e =>
        let total := if up then start + e else start - e
        let bounded := max (-(Nat.pow 2 31 : Int)) (min (Nat.pow 2 31 - 1) total)
        finishDouble after positive significand bounded
      | none =>
        if significand ≠ 0 && up then after.behind .numberOutOfRange
        else finishDouble after.skipDigits positive 0 0

/-- The part behind the decimal digits: an exponent or nothing. -/
def readTail (c : Cursor) (positive : Bool) (significand : Nat) (exponent : Int) :
    Except FaultAt (Number × Cursor) :=
  match c.peek? with
  | some 'e' | some 'E' => readExponent c positive significand exponent
  | _ => finishDouble c positive significand exponent

/-- Adds digits to a significand while they fit; the digits taken. -/
def takeDigits (significand : Nat) : List Char → Nat → Nat × Nat
  | [], taken => (significand, taken)
  | c :: rest, taken =>
    match digit? c with
    | none => (significand, taken)
    | some d => if fits significand d then takeDigits (significand * 10 + d) rest (taken + 1) else (significand, taken)

/-- The fraction part, at its point; `exponent` counts the digits dropped before it. -/
def readFraction (c : Cursor) (positive : Bool) (significand : Nat) (exponent : Int) :
    Except FaultAt (Number × Cursor) :=
  let c := c.advance
  let (significand, taken) := takeDigits significand c.rest 0
  let after : Cursor := ⟨c.rest.drop taken, c.offset + taken⟩
  if after.digit?.isSome then readTail after.skipDigits positive significand (exponent - taken)
  else if taken = 0 then
    match after.peek? with
    | some _ => after.ahead .invalidNumber
    | none => after.ahead .endInValue
  else readTail after positive significand (exponent - taken)

/-- The number behind its sign. -/
def readNumber (c : Cursor) (positive : Bool) : Except FaultAt (Number × Cursor) :=
  match c.peek? with
  | none => c.behind .endInValue
  | some first =>
    match digit? first with
    | none => .error ⟨.invalidNumber, c.offset + 1⟩
    | some d =>
      let (significand, taken) := if d = 0 then (0, 1) else takeDigits d (c.rest.drop 1) 1
      let after : Cursor := ⟨c.rest.drop taken, c.offset + taken⟩
      if d = 0 && after.digit?.isSome then after.ahead .invalidNumber
      else
        let skipped := countDigits after.rest
        let behind := after.skipDigits
        match behind.peek? with
        | some '.' => readFraction behind positive significand skipped
        | some 'e' | some 'E' => readExponent behind positive significand skipped
        | _ =>
          if skipped > 0 then finishDouble behind positive significand skipped
          else if positive then .ok (.integer significand, behind)
          else if 0 < significand ∧ significand ≤ Nat.pow 2 63 then
            .ok (.integer (-significand), behind)
          else finishDouble behind false significand 0

end Schemata.Json

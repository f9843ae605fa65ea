import Schemata.JsonSchema.Address
import Schemata.JsonSchema.Draft
import Schemata.JsonSchema.UriReference
import Schemata.Pattern.EcmaNode

/-!
# Built-in formats

The formats of texts that schemas know without anyone installing them.
-/

namespace Schemata.JsonSchema.Format

open Address

/-! ## Dates and times -/

def digits? (count : Nat) (text : List Char) : Option Nat :=
  let shown := text.take count
  if shown.length = count ∧ shown.all Char.isDigit then
    some (shown.foldl (fun n c => n * 10 + (c.toNat - 48)) 0)
  else none

def isLeapYear (year : Nat) : Bool := (year % 4 = 0 && year % 100 ≠ 0) || year % 400 = 0

def daysOfMonth (year month : Nat) : Nat :=
  if month = 2 then if isLeapYear year then 29 else 28
  else if month = 4 ∨ month = 6 ∨ month = 9 ∨ month = 11 then 30
  else 31

def isDate (text : List Char) : Bool :=
  match digits? 4 text, digits? 2 (text.drop 5), digits? 2 (text.drop 8) with
  | some year, some month, some day =>
    text.length = 10 && text[4]? = some '-' && text[7]? = some '-' && 1 ≤ month && month ≤ 12 &&
      1 ≤ day && day ≤ daysOfMonth year month
  | _, _, _ => false

/-- The offset from universal time in minutes, at the end of a time. -/
def offset? (text : List Char) : Option Int :=
  match text with
  | ['Z'] => some 0
  | ['z'] => some 0
  | [sign, a, b, ':', c, d] =>
    match digits? 2 [a, b], digits? 2 [c, d] with
    | some hours, some minutes =>
      if hours ≤ 23 ∧ minutes ≤ 59 then
        if sign = '+' then some (hours * 60 + minutes : Nat)
        else if sign = '-' then some (-(hours * 60 + minutes : Nat))
        else none
      else none
    | _, _ => none
  | _ => none

/-- Whether a text is a time of day with an offset. A leap second may only end a day of universal
time. -/
def isTime (text : List Char) : Bool :=
  match digits? 2 text, digits? 2 (text.drop 3), digits? 2 (text.drop 6) with
  | some hour, some minute, some second =>
    let behind := text.drop 8
    let fraction := if behind.head? = some '.' then (behind.drop 1).takeWhile Char.isDigit else []
    let fractionOk := behind.head? ≠ some '.' || !fraction.isEmpty
    let tail := if behind.head? = some '.' then behind.drop (fraction.length + 1) else behind
    match offset? tail with
    | some offset =>
      let minutes : Int := (hour * 60 + minute : Nat)
      text[2]? = some ':' && text[5]? = some ':' && hour ≤ 23 && minute ≤ 59 && second ≤ 60 &&
        fractionOk && (second ≠ 60 || (minutes - offset) % 1440 = 1439)
    | none => false
  | _, _, _ => false

/-- Whether a text is a date and a time with a `T` between them. -/
def isDateTime (text : List Char) : Bool :=
  let date := text.takeWhile fun c => c ≠ 'T' && c ≠ 't'
  date.length < text.length && isDate date && isTime (text.drop (date.length + 1))

/-- Whether a text is a row of numbers, each with one of the units, which come in their order. -/
def isUnitRow : List Char → List Char → Bool
  | [], text => text.isEmpty
  | unit :: units, text =>
    let number := text.takeWhile Char.isDigit
    if text.isEmpty then true
    else if !number.isEmpty && text[number.length]? = some unit then
      isUnitRow units (text.drop (number.length + 1))
    else isUnitRow units text

/-- Whether a text is a duration: weeks, or a date part and a time part behind a `T`. -/
def isDuration (text : List Char) : Bool :=
  match text with
  | 'P' :: rest =>
    let date := rest.takeWhile (· ≠ 'T')
    let time := rest.drop date.length
    if rest.isEmpty then false
    else if rest.getLast? = some 'W' then isUnitRow ['W'] rest
    else isUnitRow ['Y', 'M', 'D'] date &&
      (time.isEmpty || (1 < time.length && isUnitRow ['H', 'M', 'S'] (time.drop 1)))
  | _ => false

/-! ## Hosts and mail -/

/-- Whether a character may stand in a word of a mail address. -/
def isAtomChar (c : Char) : Bool :=
  c.isAlphanum || "!#$%&'*+-/=?^_\x60\x7b|\x7d~".toList.contains c || 128 ≤ c.toNat

def isDotAtom (text : List Char) : Bool :=
  (splitOn '.' text).all fun word => !word.isEmpty && word.all isAtomChar

def isMailHost (text : List Char) : Bool :=
  if text.head? = some '[' ∧ text.getLast? = some ']' then
    let inside := (text.drop 1).dropLast
    let marker := "IPv6:".toList
    if marker.isPrefixOf inside then isIpv6 (inside.drop marker.length) else isIpv4 inside
  else isDotAtom text && isHostname text

/-- Whether a text is a mail address. -/
def isEmail (text : List Char) : Bool :=
  let host := (text.reverse.takeWhile (· ≠ '@')).reverse
  let user := text.take (text.length - host.length - 1)
  let quoted := user.head? = some '"' && user.getLast? = some '"' && 2 ≤ user.length &&
    !((user.drop 1).dropLast).contains '"'
  text.contains '@' && !user.isEmpty && (String.ofList user).utf8ByteSize ≤ 64 &&
    (String.ofList host).utf8ByteSize ≤ 254 && (quoted || isDotAtom user) && isMailHost host

/-! ## Pointers, templates and identifiers -/

def tildesOk : List Char → Bool
  | [] => true
  | '~' :: '0' :: rest => tildesOk rest
  | '~' :: '1' :: rest => tildesOk rest
  | c :: rest => c ≠ '~' && tildesOk rest

def isJsonPointer (text : List Char) : Bool :=
  (text.isEmpty || text.head? = some '/') && tildesOk text

def isRelativeJsonPointer (text : List Char) : Bool :=
  let number := text.takeWhile Char.isDigit
  let tail := text.drop number.length
  !number.isEmpty && (number.length = 1 || number.head? ≠ some '0') &&
    (tail = ['#'] || isJsonPointer tail)

/-- Whether the braces of a text come in pairs that are not nested. -/
def bracesOk : Bool → List Char → Bool
  | inside, [] => !inside
  | inside, c :: rest =>
    if c = '\x7b' then !inside && bracesOk true rest
    else if c = '\x7d' then inside && bracesOk false rest
    else bracesOk inside rest

/-- Whether a text is 32 hexadecimal digits with hyphens. -/
def isUuid (text : List Char) : Bool :=
  (splitOn '-' text).map List.length = [8, 4, 4, 4, 12] &&
    text.all fun c => c = '-' || Pattern.isHexDigit c

/-! ## Names -/

/-- The test of a built-in format, if the edition has the format. -/
def builtin? (draft : Draft) (name : String) : Option (String → Bool) :=
  let since (edition : Draft) (test : String → Bool) : Option (String → Bool) :=
    if draft.atLeast edition then some test else none
  match name with
  | "date" => some fun s => isDate s.toList
  | "date-time" => some fun s => isDateTime s.toList
  | "time" => some fun s => isTime s.toList
  | "duration" => since .draft2019 fun s => isDuration s.toList
  | "email" => some fun s => isEmail s.toList
  | "idn-email" => some fun s => isEmail s.toList
  | "hostname" => some fun s => isHostname s.toList
  | "idn-hostname" => since .draft7 fun s => isHostname s.toList
  | "ipv4" => some fun s => isIpv4 s.toList
  | "ipv6" => some fun s => isIpv6 s.toList
  | "uri" => some (UriReference.isReference false true)
  | "uri-reference" => since .draft6 (UriReference.isReference false false)
  | "iri" => since .draft7 (UriReference.isReference true true)
  | "iri-reference" => since .draft7 (UriReference.isReference true false)
  | "uri-template" => since .draft6 fun s => bracesOk false s.toList
  | "json-pointer" => since .draft6 fun s => isJsonPointer s.toList
  | "relative-json-pointer" => since .draft7 fun s => isRelativeJsonPointer s.toList
  | "regex" => some fun s => (Pattern.EcmaNode.ofText? s).isSome
  | "uuid" => since .draft2019 fun s => isUuid s.toList
  | _ => none

end Schemata.JsonSchema.Format

import Schemata.Pattern.Escape
import Schemata.Unicode.TextClasses

/-!
# Hosts

Names of hosts and their addresses: four octets with points between them, eight groups of 16 bits
with colons between them, and longer ones in brackets.
-/

namespace Schemata.JsonSchema.Address

/-- Whether a text is a number up to 255 without a leading zero. -/
def isOctet (text : List Char) : Bool :=
  !text.isEmpty && text.length ≤ 3 && text.all Char.isDigit &&
    (text.length = 1 || text.head? ≠ some '0') &&
    text.foldl (fun n c => n * 10 + (c.toNat - 48)) 0 ≤ 255

/-- The parts of a text between the occurrences of a character. -/
def splitOn (c : Char) (text : List Char) : List (List Char) :=
  ((String.ofList text).splitOn (String.singleton c)).map String.toList

/-- Whether a text is an address of four octets. -/
def isIpv4 (text : List Char) : Bool :=
  let octets := splitOn '.' text
  octets.length = 4 && octets.all isOctet

/-- How many groups of 16 bits a row of groups fills; the last part may be an address of four
octets. -/
def groupCount? (text : List Char) : Option Nat :=
  if text.isEmpty then some 0
  else
    let groups := splitOn ':' text
    let isGroup (group : List Char) : Bool :=
      !group.isEmpty && group.length ≤ 4 && group.all Pattern.isHexDigit
    if groups.all isGroup then some groups.length
    else if groups.dropLast.all isGroup ∧ isIpv4 (groups.getLast?.getD []) then some (groups.length + 1)
    else none

/-- Whether a text is an address of eight groups, of which one run of zeros may be left out. -/
def isIpv6 (text : List Char) : Bool :=
  match (String.ofList text).splitOn "::" with
  | [whole] => groupCount? whole.toList = some 8
  | [front, back] =>
    let frontOk := !front.toList.contains '.'
    match groupCount? front.toList, groupCount? back.toList with
    | some a, some b => frontOk && a + b ≤ 7
    | _, _ => false
  | _ => false

/-- Whether a text names a host. -/
def isHostname (text : List Char) : Bool :=
  let letter (c : Char) : Bool := Unicode.isAlphabetic c || Unicode.isNumeric c || c = '-' || c = '.'
  !text.isEmpty && text.length ≤ 255 && text.head? ≠ some '-' && text.getLast? ≠ some '-' &&
    text.all letter && (splitOn '.' text).all fun label => label.length ≤ 63

/-- Whether a text is an address of a kind to come: `v`, the number of the kind, a point and the
address. -/
def isFutureAddress (text : List Char) : Bool :=
  let plain (c : Char) : Bool := c.isAlphanum || "-._~!$&'()*+,;=:".toList.contains c
  match text with
  | v :: rest =>
    let kind := rest.takeWhile (· ≠ '.')
    let address := rest.drop (kind.length + 1)
    (v = 'v' || v = 'V') && !kind.isEmpty && kind.all Pattern.isHexDigit && !address.isEmpty &&
      address.all plain
  | [] => false

def isBracketed (text : List Char) : Bool :=
  let inside := (text.drop 1).dropLast
  2 ≤ text.length && text.head? = some '[' && text.getLast? = some ']' &&
    (isIpv6 inside || isFutureAddress inside)

end Schemata.JsonSchema.Address

import Schemata.JsonSchema.Address

/-!
# URI references

The grammar of URIs and of references to them, also in its international form, where characters
beyond ASCII stand for themselves.
-/

namespace Schemata.JsonSchema.UriReference

/-- Whether a character stands for itself anywhere. -/
def isUnreserved (international : Bool) (c : Char) : Bool :=
  (c.isAlphanum || c = '-' || c = '.' || c = '_' || c = '~') ||
    (international && 0xA0 ≤ c.toNat && !(0xE000 ≤ c.toNat && c.toNat ≤ 0xF8FF))

/-- Whether a character may divide parts of a part. -/
def isSubDelimiter (c : Char) : Bool := "!$&'()*+,;=".toList.contains c

/-- Whether a text consists of the allowed characters and of percent signs with two digits. -/
def consistsOf (allowed : Char → Bool) : List Char → Bool
  | [] => true
  | '%' :: a :: b :: rest =>
    Pattern.isHexDigit a && Pattern.isHexDigit b && consistsOf allowed rest
  | c :: rest => c ≠ '%' && allowed c && consistsOf allowed rest

def isPathChar (international : Bool) (c : Char) : Bool :=
  isUnreserved international c || isSubDelimiter c || c = ':' || c = '@'

/-- Whether a text is a query or a fragment. -/
def isTail (international : Bool) (text : List Char) : Bool :=
  consistsOf (fun c => isPathChar international c || c = '/' || c = '?') text

/-- Whether a text names a host, perhaps with a user before it and a port behind it. -/
def isAuthority (international : Bool) (text : List Char) : Bool :=
  let name (c : Char) : Bool := isUnreserved international c || isSubDelimiter c
  let (user, host) :=
    if text.contains '@' then
      ((text.reverse.dropWhile (· ≠ '@')).drop 1 |>.reverse, (text.reverse.takeWhile (· ≠ '@')).reverse)
    else ([], text)
  let address := if host.head? = some '[' then host.takeWhile (· ≠ ']') ++ [']'] else host.takeWhile (· ≠ ':')
  let behind := host.drop address.length
  let validPort := behind.isEmpty || (behind.head? = some ':' && (behind.drop 1).all Char.isDigit)
  consistsOf (fun c => name c || c = ':') user && validPort &&
    (if host.head? = some '[' then Address.isBracketed address else consistsOf name address)

/-- The scheme of a reference and what follows its colon. -/
def splitScheme (text : List Char) : Option (List Char) × List Char :=
  let word := text.takeWhile fun c => c.isAlphanum || c = '+' || c = '-' || c = '.'
  match text.drop word.length with
  | ':' :: rest => if word.head?.any Char.isAlpha then (some word, rest) else (none, text)
  | _ => (none, text)

def isReference (international absolute : Bool) (text : String) : Bool :=
  let chars := text.toList
  let beforeFragment := chars.takeWhile (· ≠ '#')
  let fragment := (chars.drop beforeFragment.length).drop 1
  let beforeQuery := beforeFragment.takeWhile (· ≠ '?')
  let query := (beforeFragment.drop beforeQuery.length).drop 1
  let (scheme, rest) := splitScheme beforeQuery
  let pathOk (path : List Char) : Bool :=
    consistsOf (fun c => isPathChar international c || c = '/') path
  let placeOk :=
    match rest with
    | '/' :: '/' :: place =>
      let authority := place.takeWhile (· ≠ '/')
      isAuthority international authority && pathOk (place.drop authority.length)
    | path => pathOk path && (scheme.isSome || !(path.takeWhile (· ≠ '/')).contains ':')
  (scheme.isSome || !absolute) && placeOk && isTail international query &&
    isTail international fragment

/-- The bytes that percent signs stand for, as a text; none if they are no text. -/
def decodePercent? (text : String) : Option String :=
  String.fromUTF8? (ByteArray.mk (go text.toUTF8.toList).toArray)
where
  /-- The value of a hexadecimal digit. -/
  digit? (b : UInt8) : Option UInt8 :=
    (Pattern.hexValue? (Char.ofNat b.toNat)).map (·.toUInt8)
  /-- The bytes meant. -/
  go : List UInt8 → List UInt8
    | 37 :: a :: b :: rest =>
      match digit? a, digit? b with
      | some x, some y => (x * 16 + y) :: go rest
      | _, _ => 37 :: go (a :: b :: rest)
    | b :: rest => b :: go rest
    | [] => []

end Schemata.JsonSchema.UriReference

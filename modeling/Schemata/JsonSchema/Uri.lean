import Schemata.JsonSchema.UriReference
import Schemata.Text.Words

/-!
# Identifiers of resources

An identifier in its parts, and how a reference is read beside one: what the reference leaves out is
taken from there, and its path takes the place of the last segment of the path there. Identifiers are
compared in a normal form, in which scheme and host are in small letters, no character stands behind
a percent sign that need not, and no segment of the path is a dot or two. Addresses in brackets are
compared as they are written.
-/

namespace Schemata.JsonSchema

/-- An identifier, or a reference to one. -/
structure Uri where
  scheme? : Option (List Char)
  authority? : Option (List Char)
  path : List Char
  query? : Option (List Char)
  fragment? : Option (List Char)
  deriving DecidableEq

namespace Uri

/-- What stands before the first occurrence of a character, and what stands behind it. -/
def cut (c : Char) (text : List Char) : List Char × Option (List Char) :=
  let front := text.takeWhile (· ≠ c)
  (front, if front.length < text.length then some (text.drop (front.length + 1)) else none)

def ofText (text : String) : Uri :=
  let (beforeFragment, fragment?) := cut '#' text.toList
  let (beforeQuery, query?) := cut '?' beforeFragment
  let (scheme?, rest) := UriReference.splitScheme beforeQuery
  match rest with
  | '/' :: '/' :: place =>
    let authority := place.takeWhile (· ≠ '/')
    ⟨scheme?, some authority, place.drop authority.length, query?, fragment?⟩
  | path => ⟨scheme?, none, path, query?, fragment?⟩

/-! ## Normal forms -/

/-- The percent signs that are needed, with capital letters behind them. -/
def plainPercent : List Char → List Char
  | '%' :: a :: b :: rest =>
    match Pattern.hexValue? a, Pattern.hexValue? b with
    | some x, some y =>
      let meant := Char.ofNat (x * 16 + y)
      if UriReference.isUnreserved false meant then meant :: plainPercent rest
      else '%' :: a.toUpper :: b.toUpper :: plainPercent rest
    | _, _ => '%' :: plainPercent (a :: b :: rest)
  | c :: rest => c :: plainPercent rest
  | [] => []

/-- An authority with its host in small letters, and without a colon that no port stands behind. -/
def plainAuthority (authority : List Char) : List Char :=
  let host := (authority.reverse.takeWhile (· ≠ '@')).reverse
  let user := authority.take (authority.length - host.length)
  let named := if host.getLast? = some ':' then host.dropLast else host
  plainPercent (user ++ named.map Char.toLower)

/-- Segments without dots, behind those that are done, last first. A path does not go up past its
start. -/
def withoutDots (done : List (List Char)) : List (List Char) → List (List Char)
  | [] => done.reverse
  | segment :: segments =>
    -- what a dot leaves at the end of a path is the slash before it
    let ended (done : List (List Char)) : List (List Char) :=
      if segments.isEmpty then [] :: done else done
    let above : List (List Char) :=
      match done with
      | _ :: outer :: rest => outer :: rest
      | start => start
    if segment = ['.'] then withoutDots (ended done) segments
    else if segment = ['.', '.'] then withoutDots (ended above) segments
    else withoutDots (segment :: done) segments

def normal (uri : Uri) : Uri where
  scheme? := uri.scheme?.map (·.map Char.toLower)
  authority? := uri.authority?.map plainAuthority
  path := ['/'].intercalate (withoutDots [] (Text.splitChars '/' (plainPercent uri.path)))
  query? := uri.query?.map plainPercent
  fragment? := uri.fragment?.map plainPercent

/-! ## References -/

/-- A path in the place of the last segment of the path of an identifier. -/
def beside (uri : Uri) (path : List Char) : List Char :=
  if uri.authority?.isSome ∧ uri.path.isEmpty then '/' :: path
  else (uri.path.reverse.dropWhile (· ≠ '/')).reverse ++ path

/-- The identifier that a reference means beside another one. There is none beside one with a
fragment, and beside one whose path has no start only what does not need it. -/
def resolve? (base : Uri) (text : String) : Option Uri :=
  let reference := ofText text
  let rootless := base.authority?.isNone && base.path.head? ≠ some '/'
  if base.fragment?.isSome then none
  else if reference.scheme?.isSome then some reference.normal
  else if reference.authority?.isSome then some { reference with scheme? := base.scheme? }.normal
  else if reference.path.isEmpty then
    if rootless && reference.query?.isSome then none
    else some { base with
      query? := reference.query?.or base.query?
      fragment? := reference.fragment? }.normal
  else if rootless then none
  else
    let path := if reference.path.head? = some '/' then reference.path else base.beside reference.path
    some { reference with scheme? := base.scheme?, authority? := base.authority?, path }.normal

/-- The identifier of a document that has none of its own. -/
def initial : Uri := ⟨some "json-schema".toList, some [], ['/'], none, none⟩

example : initial.resolve? "Course/../a%7eb" = some ⟨some "json-schema".toList, some [],
    "/a~b".toList, none, none⟩ := by decide +kernel

end Uri

end Schemata.JsonSchema

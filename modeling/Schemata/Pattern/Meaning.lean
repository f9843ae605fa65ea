import Schemata.Pattern.Node
import Schemata.Pattern.Refusal
import Schemata.Unicode.PropertyName
import Schemata.Unicode.TextClasses
import Schemata.Unicode.CaseFold

/-!
# The meaning of a pattern

`Pattern.meaning` turns a pattern into a node, or refuses it. Flags hold from where they stand to
the end of the enclosing group, also across the bars of a choice. Without the Unicode flag classes
hold ASCII characters only, and whatever would go beyond is refused.
-/

namespace Schemata.Pattern

open Unicode (CodeRanges)

/-- The flags that bear on what matches. -/
structure Flags where
  /-- Letter case does not count. -/
  caseInsensitive : Bool
  /-- Caret and dollar sign match at line ends too. -/
  multiLine : Bool
  /-- The dot matches a line feed too. -/
  dotAll : Bool
  /-- Classes and the dot range over all characters. -/
  unicode : Bool
  /-- A line may end with carriage return and line feed. -/
  crlf : Bool
  deriving DecidableEq, Repr

namespace Flags

/-- The flags that hold at the start of a pattern. -/
def initial : Flags := ⟨false, false, false, true, false⟩

def apply (flags : Flags) (change : FlagChange) : Flags where
  caseInsensitive := (change.state? .caseInsensitive).getD flags.caseInsensitive
  multiLine := (change.state? .multiLine).getD flags.multiLine
  dotAll := (change.state? .dotAll).getD flags.dotAll
  unicode := (change.state? .unicode).getD flags.unicode
  crlf := (change.state? .crlf).getD flags.crlf

end Flags

/-! ## Classes -/

/-- The characters of a bracketed class name. -/
def AsciiKind.ranges : AsciiKind → CodeRanges
  | alnum => [(48, 57), (65, 90), (97, 122)]
  | alpha => [(65, 90), (97, 122)]
  | ascii => [(0, 127)]
  | blank => [(9, 9), (32, 32)]
  | cntrl => [(0, 31), (127, 127)]
  | digit => [(48, 57)]
  | graph => [(33, 126)]
  | lower => [(97, 122)]
  | print => [(32, 126)]
  | punct => [(33, 47), (58, 64), (91, 96), (123, 126)]
  | space => [(9, 13), (32, 32)]
  | upper => [(65, 90)]
  | word => [(48, 57), (65, 90), (95, 95), (97, 122)]
  | xdigit => [(48, 57), (65, 70), (97, 102)]

/-- The characters of a one-letter class. -/
def PerlKind.ranges (kind : PerlKind) (unicode : Bool) : CodeRanges :=
  match kind, unicode with
  | digit, true => Unicode.decimalDigits
  | space, true => Unicode.whiteSpace
  | word, true => Unicode.wordCharacters
  | digit, false => AsciiKind.digit.ranges
  | space, false => AsciiKind.space.ranges
  | word, false => AsciiKind.word.ranges

/-- The letters of ASCII with their other case. -/
def closeUnderAsciiCase (set : CodeRanges) : CodeRanges :=
  let shifted := set.flatMap fun (lo, hi) =>
    [(max lo 65 + 32, min hi 90 + 32), (max lo 97 - 32, min hi 122 - 32)]
  CodeRanges.union set (CodeRanges.ofList shifted)

namespace Flags

/-- The set with both cases of its letters, where case does not count. -/
def fold (flags : Flags) (set : CodeRanges) : CodeRanges :=
  if flags.caseInsensitive then
    if flags.unicode then Unicode.closeUnderCase set else closeUnderAsciiCase set
  else set

/-- The set or its complement. A complement within bytes would match parts of characters. -/
def complement (flags : Flags) (span : Span) (negated : Bool) (set : CodeRanges) :
    Except Refusal CodeRanges :=
  if negated then
    if flags.unicode then .ok set.negate else .error ⟨span, .invalidUtf8⟩
  else .ok set

def classChar (flags : Flags) (literal : Literal) : Except Refusal Nat :=
  if flags.unicode ∨ literal.char.toNat < 128 then .ok literal.char.toNat
  else .error ⟨literal.span, if literal.isByte then .invalidUtf8 else .unicodeNotAllowed⟩

/-- The characters of a one-letter class. -/
def perlRanges (flags : Flags) (cls : PerlClass) : Except Refusal CodeRanges :=
  flags.complement cls.span cls.negated (cls.kind.ranges flags.unicode)

def propertyRanges (flags : Flags) (cls : PropertyClass) : Except Refusal CodeRanges :=
  if flags.unicode then
    let found :=
      match cls.query with
      | .named name => Unicode.propertyByName name
      | .valued name value => Unicode.propertyByValue name value
    match found with
    | .ok set => flags.complement cls.span cls.negated (flags.fold set)
    | .error .unknownProperty => .error ⟨cls.span, .unknownProperty⟩
    | .error .unknownValue => .error ⟨cls.span, .unknownPropertyValue⟩
  else .error ⟨cls.span, .unicodeNotAllowed⟩

end Flags

def ClassOperator.apply : ClassOperator → CodeRanges → CodeRanges → CodeRanges
  | intersection => CodeRanges.intersect
  | difference => CodeRanges.difference
  | symmetricDifference => CodeRanges.symmetricDifference

def ClassSet.ranges (flags : Flags) : ClassSet → Except Refusal CodeRanges
  | .empty => .ok []
  | .literal l => (flags.classChar l).map fun c => [(c, c)]
  | .range first last => do
    let lo ← flags.classChar first
    let hi ← flags.classChar last
    pure [(lo, hi)]
  | .ascii span kind negated => flags.complement span negated (flags.fold kind.ranges)
  | .property cls => flags.propertyRanges cls
  | .perl cls => flags.perlRanges cls
  | .bracketed span negated body => do
    let set ← body.ranges flags
    flags.complement span negated (flags.fold set)
  | .union items => rangesOfAll flags items
  | .operation operator left right => do
    let left ← left.ranges flags
    let right ← right.ranges flags
    pure (operator.apply (flags.fold left) (flags.fold right))
where
  /-- The characters of all items together. -/
  rangesOfAll (flags : Flags) : List ClassSet → Except Refusal CodeRanges
    | [] => .ok []
    | item :: items => do
      let set ← item.ranges flags
      let others ← rangesOfAll flags items
      pure (CodeRanges.union set others)

/-! ## Patterns -/

def Assertion.look (flags : Flags) : Assertion → Look
  | lineStart =>
    if flags.multiLine then if flags.crlf then .crlfLineStart else .lineStart else .textStart
  | lineEnd => if flags.multiLine then if flags.crlf then .crlfLineEnd else .lineEnd else .textEnd
  | textStart => .textStart
  | textEnd => .textEnd
  | wordBoundary => .wordBoundary flags.unicode
  | noWordBoundary => .noWordBoundary flags.unicode
  | wordStart => .wordStart flags.unicode
  | wordEnd => .wordEnd flags.unicode
  | wordStartHalf => .wordStartHalf flags.unicode
  | wordEndHalf => .wordEndHalf flags.unicode

def Flags.dotRanges (flags : Flags) (span : Span) : Except Refusal CodeRanges :=
  if flags.unicode then
    if flags.dotAll then .ok [(0, Unicode.lastCodePoint)]
    else if flags.crlf then .ok (CodeRanges.negate [(10, 10), (13, 13)])
    else .ok (CodeRanges.negate [(10, 10)])
  else .error ⟨span, .invalidUtf8⟩

def Flags.literalRanges (flags : Flags) (l : Literal) : Except Refusal CodeRanges :=
  if ¬ flags.unicode ∧ l.isByte ∧ 128 ≤ l.char.toNat then .error ⟨l.span, .invalidUtf8⟩
  else .ok (flags.fold (CodeRanges.single l.char))

def meaningUnder (flags : Flags) : Pattern → Except Refusal (Node × Flags)
  | .empty => .ok (.empty, flags)
  | .flags change => .ok (.empty, flags.apply change)
  | .literal l => do
    let set ← flags.literalRanges l
    pure (.one set, flags)
  | .dot span => do
    let set ← flags.dotRanges span
    pure (.one set, flags)
  | .assertion kind => .ok (.look (kind.look flags), flags)
  | .property cls => do
    let set ← flags.propertyRanges cls
    pure (.one set, flags)
  | .perl cls => do
    let set ← flags.perlRanges cls
    pure (.one set, flags)
  | .bracketed span negated body => do
    let set ← body.ranges flags
    let set ← flags.complement span negated (flags.fold set)
    pure (.one set, flags)
  | .repetition kind body => do
    let (node, flags) ← body.meaningUnder flags
    pure (.repetition kind.least kind.most? node, flags)
  | .group .capturing body => do
    let (node, _) ← body.meaningUnder flags
    pure (.capture node, flags)
  | .group (.flagged change) body => do
    let (node, _) ← body.meaningUnder (flags.apply change)
    pure (node, flags)
  | .alternation branches => do
    let (nodes, flags) ← meaningOfAll flags branches
    pure (.alternation nodes, flags)
  | .concat parts => do
    let (nodes, flags) ← meaningOfAll flags parts
    pure (.concat nodes, flags)
where
  /-- The meanings of parts one after the other. -/
  meaningOfAll (flags : Flags) : List Pattern → Except Refusal (List Node × Flags)
    | [] => .ok ([], flags)
    | part :: parts => do
      let (node, flags) ← part.meaningUnder flags
      let (nodes, flags) ← meaningOfAll flags parts
      pure (node :: nodes, flags)

def meaning (pattern : Pattern) : Except Refusal Node :=
  (pattern.meaningUnder Flags.initial).map (·.1)

end Schemata.Pattern

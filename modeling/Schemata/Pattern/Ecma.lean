import Schemata.Pattern.Reader
import Schemata.Pattern.Meaning
import Schemata.Pattern.Matching
import Schemata.Pattern.Footprint

/-!
# Patterns of the ECMA dialect

Schemas write their patterns in the ECMA dialect. It is read as any pattern, with three differences:
one-letter classes hold fixed sets of characters, `\c` with a letter stands for a control character,
and groups may look around, which `EcmaNode` is for.
-/

namespace Schemata.Pattern

def classOfRanges (span : Span) (negated : Bool) (ranges : List (Char × Char)) : ClassSet :=
  let item (range : Char × Char) : ClassSet :=
    .range ⟨span, range.1, false⟩ ⟨span, range.2, false⟩
  .bracketed span negated (.union (ranges.map item))

def PerlClass.ecma (cls : PerlClass) : ClassSet :=
  classOfRanges cls.span cls.negated <|
    match cls.kind with
    | .digit => [('0', '9')]
    | .word => [('A', 'Z'), ('a', 'z'), ('0', '9'), ('_', '_')]
    | .space =>
      [(' ', ' '), ('\t', '\r'), ('\u00a0', '\u00a0'), ('\ufeff', '\ufeff'), ('\u2003', '\u2003'),
        ('\u2029', '\u2029')]

/-- A class with fixed one-letter classes. -/
def ClassSet.ecma : ClassSet → ClassSet
  | .perl cls => cls.ecma
  | .bracketed span negated body => .bracketed span negated body.ecma
  | .union items => .union (ecmaAll items)
  | .operation operator left right => .operation operator left.ecma right.ecma
  | other => other
where
  /-- Classes with fixed one-letter classes. -/
  ecmaAll : List ClassSet → List ClassSet
    | [] => []
    | item :: items => item.ecma :: ecmaAll items

/-- A pattern with fixed one-letter classes. -/
def ecma : Pattern → Pattern
  | .perl cls =>
    match cls.ecma with
    | .bracketed span negated body => .bracketed span negated body
    | _ => .perl cls
  | .bracketed span negated body => .bracketed span negated body.ecma
  | .repetition kind body => .repetition kind body.ecma
  | .group kind body => .group kind body.ecma
  | .alternation branches => .alternation (ecmaAll branches)
  | .concat parts => .concat (ecmaAll parts)
  | other => other
where
  /-- Patterns with fixed one-letter classes. -/
  ecmaAll : List Pattern → List Pattern
    | [] => []
    | part :: parts => part.ecma :: ecmaAll parts

/-- The control characters that `\c` and a letter stand for. -/
def expandControlEscapes : List Char → List Char
  | '\\' :: 'c' :: letter :: rest =>
    if letter.isAlpha then Char.ofNat (letter.toNat % 32) :: expandControlEscapes rest
    else '\\' :: 'c' :: expandControlEscapes (letter :: rest)
  | '\\' :: c :: rest => '\\' :: c :: expandControlEscapes rest
  | c :: rest => c :: expandControlEscapes rest
  | [] => []

/-- The meaning of characters that do not look around, under flags, and the flags behind them. There
is none if the characters are no pattern or its automata do not stay within the limit. -/
def plainMeaning (flags : Flags) (chars : List Char) : Option (Node × Flags) :=
  match read (String.ofList chars) with
  | .error _ => none
  | .ok pattern =>
    match pattern.ecma.meaningUnder flags with
    | .error _ => none
    | .ok (node, after) => if node.fits then some (node, after) else none

end Schemata.Pattern

import Schemata.Pattern.Escape

/-!
# Classes in brackets

Reads a class in brackets with its ranges, inner classes and operators. The open brackets and the
operators that wait for their right side are kept on a stack; operators bind to the left.
-/

namespace Schemata.Pattern

/-- What waits for the rest of a class to be read. -/
inductive ClassFrame where
  /-- A bracket: the items of the class around it, last first, and how it opened. -/
  | opened (outer : List ClassSet) (start : Nat) (negated : Bool)
  /-- An operator with its left side. -/
  | operated (operator : ClassOperator) (left : ClassSet)

/-- Reads a class name in inner brackets, such as `[:digit:]`; anything else is no name. -/
def readAsciiClass? (scan : Scan) : Option (ClassSet × Scan) :=
  (scan.behind? "[:").bind fun inside =>
    let (negated, inside) :=
      match inside.behind? "^" with
      | some behind => (true, behind)
      | none => (false, inside)
    let name := inside.rest.takeWhile (· ≠ ':')
    let behindName := inside.advance name.length
    (behindName.behind? ":]").bind fun behind =>
      (AsciiKind.ofName? (String.ofList name)).map fun kind =>
        (.ascii (behind.since scan.offset) kind negated, behind)

def readLeadingHyphens : Nat → Scan → List ClassSet → Except Fault (List ClassSet × Scan)
  | 0, _, _ => .error .unclosedClass
  | fuel + 1, scan, items =>
    if scan.at? '-' then
      let after := scan.next
      let item := ClassSet.literal ⟨⟨scan.offset, scan.offset + 1⟩, '-', false⟩
      if after.atEnd then .error .unclosedClass
      else readLeadingHyphens fuel after (item :: items)
    else .ok (items, scan)

/-- Reads an opening bracket with the signs that stand for other things right behind it: the caret
of a complement, hyphens, and a closing bracket as the first character. -/
def readOpening (scan : Scan) : Except Fault (Bool × List ClassSet × Scan) := do
  let inside := scan.next
  if inside.atEnd then .error .unclosedClass
  else
    let negated := inside.at? '^'
    let inside := if negated then inside.next else inside
    if inside.atEnd then .error .unclosedClass
    else
      let (items, scan) ← readLeadingHyphens (inside.rest.length + 1) inside []
      if items.isEmpty ∧ scan.at? ']' then
        let item := ClassSet.literal ⟨⟨scan.offset, scan.offset + 1⟩, ']', false⟩
        if scan.next.atEnd then .error .unclosedClass else pure (negated, [item], scan.next)
      else pure (negated, items, scan)

def readClassPrimitive (scan : Scan) : Except Fault (Primitive × Scan) :=
  match scan.char? with
  | none => .error .unclosedClass
  | some '\\' => readEscape scan
  | some c =>
    let after := scan.advance 1
    .ok (.literal ⟨after.since scan.offset, c, false⟩, after)

/-- Reads one item of a class or a range of characters. A hyphen makes a range unless a bracket or
a second hyphen comes after it. -/
def readClassItem (scan : Scan) : Except Fault (ClassSet × Scan) := do
  let (first, scan) ← readClassPrimitive scan
  let scan := scan.skipBlanks
  if scan.atEnd then .error .unclosedClass
  else if ¬ scan.at? '-' ∨ scan.peekPastBlanks? = some ']' ∨ scan.peekPastBlanks? = some '-' then
    let item ← first.toClassItem
    pure (item, scan)
  else
    let scan := scan.next
    if scan.atEnd then .error .unclosedClass
    else
      let (last, scan) ← readClassPrimitive scan
      let first ← first.toRangeEnd
      let last ← last.toRangeEnd
      if last.char < first.char then .error .invertedClassRange
      else pure (.range first last, scan)

def closeOperator (right : ClassSet) : List ClassFrame → ClassSet × List ClassFrame
  | .operated operator left :: frames => (.operation operator left right, frames)
  | frames => (right, frames)

def classOperator? (scan : Scan) : Option ClassOperator :=
  match scan.char?, scan.peek? with
  | some '&', some '&' => some .intersection
  | some '-', some '-' => some .difference
  | some '~', some '~' => some .symmetricDifference
  | _, _ => none

/-- Reads a class up to its closing bracket. `items` are those of the innermost class, last first.
Every round takes a character, so that the length of the text is fuel enough. -/
def readClassFrom : Nat → Scan → List ClassFrame → List ClassSet →
    Except Fault (Pattern × Scan)
  | 0, _, _, _ => .error .unclosedClass
  | fuel + 1, scan, frames, items =>
    let scan := scan.skipBlanks
    match scan.char? with
    | none => .error .unclosedClass
    | some '[' =>
      match if frames.isEmpty then none else readAsciiClass? scan with
      | some (item, scan) => readClassFrom fuel scan frames (item :: items)
      | none =>
        match readOpening scan with
        | .error fault => .error fault
        | .ok (negated, inner, after) =>
          readClassFrom fuel after (.opened items scan.offset negated :: frames) inner
    | some ']' =>
      let (body, frames) := closeOperator (ClassSet.ofItems items.reverse) frames
      let after := scan.advance 1
      match frames with
      | [.opened _ start negated] => .ok (.bracketed (after.since start) negated body, after)
      | .opened outer start negated :: frames =>
        readClassFrom fuel after frames (.bracketed (after.since start) negated body :: outer)
      | _ => .error .unclosedClass
    | some _ =>
      match classOperator? scan with
      | some operator =>
        let (left, frames) := closeOperator (ClassSet.ofItems items.reverse) frames
        readClassFrom fuel (scan.advance 2) (.operated operator left :: frames) []
      | none =>
        match readClassItem scan with
        | .error fault => .error fault
        | .ok (item, scan) => readClassFrom fuel scan frames (item :: items)

/-- Reads a class; the scan stands at its opening bracket. -/
def readClass (scan : Scan) : Except Fault (Pattern × Scan) :=
  readClassFrom (scan.rest.length + 1) scan [] []

end Schemata.Pattern

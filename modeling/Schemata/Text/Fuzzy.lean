/-!
# Fuzzy matching

How well the characters of a query, in order, are found in a text. Each match scores, more at the
head of a word and more in a run; gaps cost. The score is computed row by row, one row for each
character of the query, on two rows in turn: what a row holds from the row before the last stays
there until it is overwritten, and is read.
-/

namespace Schemata.Text.Fuzzy

/-! ## Characters -/

/-- What a character is for the division of a text into words. -/
inductive CharKind where
  /-- Divides words. -/
  | hardDivider
  /-- Divides parts of a word. -/
  | softDivider
  | digit
  | upper
  /-- Everything else. -/
  | lower
  deriving DecidableEq, Repr

def kindOf (c : Char) : CharKind :=
  if " /\\|()[]\x7b\x7d".toList.contains c then .hardDivider
  else if "!\"#$%&'*+,-.:;<=>?@^_`~".toList.contains c then .softDivider
  else if c.isDigit then .digit
  else if c.isUpper then .upper
  else .lower

/-- What a match of a character scores for its place, by the kind of the character before it. -/
def placeBonus : Option CharKind → CharKind → Int
  | none, _ => 8
  | some .hardDivider, _ => 8
  | some .softDivider, _ => 7
  | some .lower, .upper => 6
  | some .digit, .upper => 6
  | _, _ => 0

/-- What the characters of a text score for their places. -/
def placeBonuses (before : Option CharKind) : List Char → List Int
  | [] => []
  | c :: rest => placeBonus before (kindOf c) :: placeBonuses (some (kindOf c)) rest

/-- The scores for places with the first of them doubled. -/
def bonuses (text : List Char) : List Int :=
  match placeBonuses none text with
  | [] => []
  | first :: rest => 2 * first :: rest

/-- Whether characters match; without regard to case if so wanted, in the letters from A to Z. -/
def matching (sensitive : Bool) (c wanted : Char) : Bool :=
  if sensitive then c = wanted else c.toLower = wanted.toLower

/-! ## Rows -/

/-- A cell of a row. -/
structure Cell where
  /-- The best score with a match here. -/
  hit : Int
  /-- The best score with a gap here. -/
  gap : Int
  /-- The bonus of the run that ends here. -/
  run : Int
  deriving DecidableEq, Repr, Inhabited

/-- A score that no match reaches. -/
def hopeless : Int := -32768

def blankCell : Cell := ⟨hopeless, hopeless, 0⟩

/-- A row that is written from left to right: what is done, the last cell done, and what is not. -/
def fillRow (sensitive : Bool) (wanted : Char) :
    Cell → List (Char × Int) → List Cell → List Cell → List Cell
  | last, (c, bonus) :: chars, above :: aboves, old :: olds =>
    let found := matching sensitive c wanted
    let run := max (max last.run bonus) 4
    let last' : Cell := if found then { last with run } else last
    let score : Int := if c = wanted then 16 else 14
    let next : Cell := {
      hit := if found then score + max (above.hit + run) (above.gap + bonus) else hopeless
      gap := max (last.hit - 4) (last.gap - 1)
      run := if found then old.run else 0 }
    last' :: fillRow sensitive wanted next chars aboves olds
  | last, _, _, olds => last :: olds

/-- The positions where the characters of a query are found first, one after the other. -/
def firstPlaces? (sensitive : Bool) (place : Nat) : List Char → List Char → Option (List Nat)
  | _, [] => some []
  | [], _ :: _ => none
  | c :: text, wanted :: query =>
    if matching sensitive c wanted then
      (firstPlaces? sensitive (place + 1) text query).map (place :: ·)
    else firstPlaces? sensitive (place + 1) text (wanted :: query)

/-- A row after a character of the query whose first place is given. -/
def stepRow (sensitive : Bool) (text : List (Char × Int)) (wanted : Char) (first : Nat)
    (above old : List Cell) : List Cell :=
  old.take first ++
    fillRow sensitive wanted (old.getD first blankCell) (text.drop first) (above.drop first)
      (old.drop (first + 1))

/-- The last row, from the row above, the row to write over, and the rest of the query. -/
def lastRow (sensitive : Bool) (text : List (Char × Int)) :
    List Cell → List Cell → List (Char × Nat) → List Cell
  | above, _, [] => above
  | above, old, (wanted, first) :: query =>
    lastRow sensitive text (stepRow sensitive text wanted first above old) above query

def score? (text query : String) : Option Int :=
  let chars := text.toList
  let wanted := query.toList
  if wanted.isEmpty then some 0
  else
    let sensitive := wanted.any Char.isUpper
    (firstPlaces? sensitive 0 chars wanted).map fun places =>
      let cells := List.replicate (chars.length + 1)
      let row := lastRow sensitive (chars.zip (bonuses chars)) (cells ⟨hopeless, -1, 0⟩)
        (cells blankCell) (wanted.zip places)
      (row.drop (places.getLastD 0)).foldl (fun best cell => max best cell.hit) hopeless

end Schemata.Text.Fuzzy

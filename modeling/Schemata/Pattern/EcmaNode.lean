import Schemata.Pattern.Ecma

/-!
# Looking around

Patterns of schemas may look ahead and behind. Such a pattern is cut at the groups that do so and at
the groups around them; what stands between them is read as any pattern. What is looked behind for
has one length, or is a choice of which each branch has one.

Nothing else goes beyond what any pattern can say: a pattern that refers back to what a group has
matched, that has atomic groups, possessive repetitions or conditions, has no meaning here. Blanks and
comments are not skipped in the pieces of a pattern that looks around.

    (?= …)   what follows matches                (?! …)   what follows does not match
    (?<= …)  something that ends here matches    (?<! …)  nothing that ends here matches
-/

namespace Schemata.Pattern

/-- The meaning of a pattern that may look around. -/
inductive EcmaNode where
  | plain (node : Node)
  /-- The empty text, where the body matches ahead or behind, or where it does not. -/
  | lookAround (behind negated : Bool) (body : EcmaNode)
  | repetition (least : Nat) (most : Option Nat) (body : EcmaNode)
  | alternation (branches : List EcmaNode)
  | concat (parts : List EcmaNode)
  deriving Inhabited

/-! ## Lengths -/

def commonLength? : List (Option Nat) → Option Nat
  | [] => none
  | first :: others => if others.all (· = first) then first else none

def totalLength? : List (Option Nat) → Option Nat
  | [] => some 0
  | first :: others => first.bind fun n => (totalLength? others).map (n + ·)

def Node.length? : Node → Option Nat
  | .empty => some 0
  | .one _ => some 1
  | .look _ => some 0
  | .repetition least most body => if most = some least then body.length?.map (least * ·) else none
  | .capture body => body.length?
  | .alternation branches => commonLength? (lengths branches)
  | .concat parts => totalLength? (lengths parts)
where
  /-- The lengths of a list of nodes. -/
  lengths : List Node → List (Option Nat)
    | [] => []
    | node :: nodes => node.length? :: lengths nodes

/-- The positions of a text of the given length where a match of a node ends, or begins. -/
def Placed.seen (length : Nat) (behind : Bool) (node : Placed) : Positions :=
  if behind then node.advance (length + 1) (Positions.all length)
  else Positions.ofList ((List.range (length + 1)).map fun i => node.advance (length + 1) (1 <<< i) ≠ 0)

namespace EcmaNode

/-- The length of all texts that a node matches, where it can be told. -/
def length? : EcmaNode → Option Nat
  | .plain node => node.length?
  | .lookAround _ _ _ => some 0
  | .repetition least most body => if most = some least then body.length?.map (least * ·) else none
  | .alternation branches => commonLength? (lengths branches)
  | .concat parts => totalLength? (lengths parts)
where
  /-- The lengths of a list of nodes. -/
  lengths : List EcmaNode → List (Option Nat)
    | [] => []
    | node :: nodes => node.length? :: lengths nodes

/-- Whether a node can be looked behind for. -/
def canBeBehind (node : EcmaNode) : Bool :=
  node.length?.isSome ||
    match node with
    | .alternation branches => branches.all (·.length?.isSome)
    | .plain (.alternation branches) => branches.all (·.length?.isSome)
    | _ => false

/-! ## Matching -/

/-- A node with its leaves tried at every position of a text. What looks around is a condition on
positions. -/
def place (text : List Char) : EcmaNode → Placed
  | .plain node => node.place text
  | .lookAround behind negated body =>
    let seen := (body.place text).seen text.length behind
    .look (if negated then Positions.all text.length ^^^ seen else seen)
  | .repetition least most body => .repetition least most (body.place text)
  | .alternation branches => .alternation (placeAll text branches)
  | .concat parts => .concat (placeAll text parts)
where
  /-- A list of nodes with their leaves tried. -/
  placeAll (text : List Char) : List EcmaNode → List Placed
    | [] => []
    | node :: nodes => node.place text :: placeAll text nodes

def matchesIn (node : EcmaNode) (text : String) : Bool :=
  let chars := text.toList
  (node.place chars).advance (chars.length + 1) (Positions.all chars.length) ≠ 0

end EcmaNode

/-! ## Pieces -/

/-- A piece of a pattern as it is written. -/
inductive Piece where
  /-- One character, an escape or a class. -/
  | symbol (chars : List Char)
  | bar
  /-- Pieces in parentheses, with all that belongs to the opening one. -/
  | group (opening : List Char) (pieces : List Piece)
  | lookAround (behind negated : Bool) (pieces : List Piece)

/-- The number of characters of a class, from behind an opening bracket on. Right behind one, a
closing bracket stands for itself. -/
def classLength : (depth : Nat) → (atStart : Bool) → List Char → Nat
  | _, _, [] => 0
  | depth, _, '\\' :: _ :: rest => 2 + classLength depth false rest
  | depth, _, '[' :: rest => 1 + classLength (depth + 1) true rest
  | depth, true, ']' :: rest => 1 + classLength depth false rest
  | 0, false, ']' :: _ => 1
  | depth + 1, false, ']' :: rest => 1 + classLength depth false rest
  | depth, atStart, c :: rest => 1 + classLength depth (atStart && c = '^') rest

/-- The number of characters that belong together at the start of a text. -/
def pieceLength : List Char → Nat
  | '\\' :: _ :: _ => 2
  | '[' :: rest => 1 + classLength 0 true rest
  | _ => 1

namespace Piece

/-- What an opening parenthesis begins, and what follows that. -/
def opening (chars : List Char) : (List Piece → Piece) × List Char :=
  match chars with
  | '(' :: '?' :: '=' :: rest => (.lookAround false false, rest)
  | '(' :: '?' :: '!' :: rest => (.lookAround false true, rest)
  | '(' :: '?' :: '<' :: '=' :: rest => (.lookAround true false, rest)
  | '(' :: '?' :: '<' :: '!' :: rest => (.lookAround true true, rest)
  | '(' :: '?' :: rest =>
    let words := rest.takeWhile fun c => c ≠ ':' && c ≠ '>' && c ≠ ')'
    let sign := ((rest.drop words.length).take 1).filter (· ≠ ')')
    (.group (['(', '?'] ++ words ++ sign), rest.drop (words.length + sign.length))
  | _ => (.group (chars.take 1), chars.drop 1)

/-- The pieces up to a parenthesis that closes no group, or to the end, and what follows them. Every
round takes a character, so that the length of the text is fuel enough. -/
def readAll : Nat → List Char → Option (List Piece × List Char)
  | 0, _ => none
  | fuel + 1, chars =>
    match chars with
    | [] => some ([], [])
    | ')' :: _ => some ([], chars)
    | '|' :: rest => (readAll fuel rest).map fun (pieces, after) => (.bar :: pieces, after)
    | '(' :: _ =>
      let (enclose, inside) := opening chars
      (readAll fuel inside).bind fun (pieces, after) =>
        match after with
        | ')' :: after => (readAll fuel after).map fun (others, after) => (enclose pieces :: others, after)
        | _ => none
    | _ =>
      let length := pieceLength chars
      (readAll fuel (chars.drop length)).map fun (pieces, after) =>
        (.symbol (chars.take length) :: pieces, after)

def looksAround : Piece → Bool
  | .symbol _ => false
  | .bar => false
  | .group _ pieces => anyLooksAround pieces
  | .lookAround _ _ _ => true
where
  /-- Whether something looks around in one of the pieces. -/
  anyLooksAround : List Piece → Bool
    | [] => false
    | piece :: pieces => piece.looksAround || anyLooksAround pieces

/-- Pieces as they are written, those aside that look around. -/
def written : Piece → List Char
  | .symbol chars => chars
  | .bar => ['|']
  | .group opening pieces => opening ++ writtenAll pieces ++ [')']
  | .lookAround _ _ _ => []
where
  /-- Several pieces as they are written. -/
  writtenAll : List Piece → List Char
    | [] => []
    | piece :: pieces => piece.written ++ writtenAll pieces

def branches : List Piece → List (List Piece)
  | [] => [[]]
  | .bar :: pieces => [] :: branches pieces
  | piece :: pieces =>
    match branches pieces with
    | [] => [[piece]]
    | branch :: others => (piece :: branch) :: others

end Piece

/-! ## Meanings -/

/-- A node with the repetition that follows it, if one does, and what follows that. -/
def repeated (node : EcmaNode) (behind : List Char) : Option (EcmaNode × List Char) :=
  let closed (kind : RepetitionKind) (scan : Scan) : Option (EcmaNode × List Char) :=
    if scan.at? '+' then none else some (.repetition kind.least kind.most? node, scan.rest)
  let scan := Scan.ofString (String.ofList behind)
  match behind with
  | [] => some (node, [])
  | '{' :: _ =>
    match readCounts scan with
    | .ok (kind, scan) => closed kind scan
    | .error _ => none
  | c :: _ =>
    match signRepetition? c with
    | some kind => closed kind (behindLazy (scan.advance 1))
    | none => some (node, behind)

/-- The flags inside a group with an opening parenthesis, if there are such groups. -/
def flagsBehind (flags : Flags) (opening : List Char) : Option Flags :=
  match read (String.ofList (opening ++ [')'])) with
  | .ok (.group (.flagged change) _) => some (flags.apply change)
  | .ok (.group .capturing _) => some flags
  | _ => none

namespace EcmaNode

mutual
def ofPieces : Nat → Flags → List Piece → Option (EcmaNode × Flags)
  | 0, _, _ => none
  | fuel + 1, before, pieces =>
    if !pieces.any (·.looksAround) then
      (plainMeaning before (Piece.written.writtenAll pieces)).map fun (node, after) => (.plain node, after)
    else
      match Piece.branches pieces with
      | [row] => (ofRow fuel before row).map fun (parts, after) => (.concat parts, after)
      | rows => (ofRows fuel before rows).map fun (branches, after) => (.alternation branches, after)

/-- The meanings of rows of pieces, the flags going on from each to the next. -/
def ofRows : Nat → Flags → List (List Piece) → Option (List EcmaNode × Flags)
  | 0, _, _ => none
  | _ + 1, before, [] => some ([], before)
  | fuel + 1, before, row :: rows =>
    (ofRow fuel before row).bind fun (parts, later) =>
      (ofRows fuel later rows).map fun (branches, after) => (.concat parts :: branches, after)

def ofRow : Nat → Flags → List Piece → Option (List EcmaNode × Flags)
  | 0, _, _ => none
  | fuel + 1, before, pieces =>
    let front := pieces.takeWhile (!·.looksAround)
    let node? : Option (List EcmaNode × Flags) :=
      if front.isEmpty then some ([], before)
      else (plainMeaning before (Piece.written.writtenAll front)).map fun (node, later) =>
        ([.plain node], later)
    node?.bind fun (nodes, later) =>
      match pieces.dropWhile (!·.looksAround) with
      | [] => some (nodes, later)
      | piece :: behind =>
        let others := behind.dropWhile (!·.looksAround)
        let following := Piece.written.writtenAll (behind.takeWhile (!·.looksAround))
        (ofPiece fuel later piece).bind fun node =>
          (repeated node following).bind fun (node, following) =>
            let rest := if following.isEmpty then others else .symbol following :: others
            (ofRow fuel later rest).map fun (parts, after) => (nodes ++ node :: parts, after)

/-- The meaning of a piece that looks around, or has something in it that does. -/
def ofPiece : Nat → Flags → Piece → Option EcmaNode
  | 0, _, _ => none
  | fuel + 1, before, piece =>
    match piece with
    | .group opening pieces =>
      (flagsBehind before opening).bind fun inside => (ofPieces fuel inside pieces).map (·.1)
    | .lookAround behind negated pieces =>
      (ofPieces fuel before pieces).bind fun (body, _) =>
        if behind && !body.canBeBehind then none else some (.lookAround behind negated body)
    | _ => none
end

/-- The meaning of a text in the ECMA dialect. Every step goes on to a later piece or into one. -/
def ofText? (text : String) : Option EcmaNode :=
  let chars := expandControlEscapes text.toList
  match plainMeaning Flags.initial chars with
  | some (node, _) => some (.plain node)
  | none =>
    match Piece.readAll (chars.length + 1) chars with
    | some (pieces, []) => (ofPieces (4 * chars.length + 4) Flags.initial pieces).map (·.1)
    | _ => none

example : (["ab-1", "ab--1", "ab"].map fun text =>
    (ofText? "^(?=.*[0-9])(?!.*--).+$").map (·.matchesIn text)) =
      [some true, some false, some false] := by decide +kernel

end EcmaNode

end Schemata.Pattern

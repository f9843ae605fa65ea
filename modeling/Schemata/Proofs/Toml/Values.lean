import Mathlib.Data.List.TakeWhile
import Schemata.Proofs.Toml.Strings
import Schemata.Toml.Reader

/-!
# Values of TOML

What was written as true or false, as a number, as a text or as a list of texts is read as the same
value.

    joinDigits? isDigit digits = some digits                                      (joinDigits?_eq)
    n < 2 ^ 63 → number? (Nat.toDigits 10 n) = some (.integer n)              (number?_toDigits)
    readValue fuel (writeTexts texts ++ '\n' :: rest) = some (.list texts, '\n' :: rest)
                                                                         (readValue_writeTexts)
-/

namespace Schemata.Toml

open Schemata.Settings (Item)

/-! ## Numbers -/

theorem joinDigits?_eq {isDigit : Char → Bool} {digits : List Char} (hne : digits ≠ [])
    (hdigits : ∀ c ∈ digits, isDigit c = true) (hline : isDigit '_' = false) :
    joinDigits? isDigit digits = some digits := by
  induction digits with
  | nil => exact absurd rfl hne
  | cons c digits ih =>
    obtain ⟨hc, hrest⟩ := List.forall_mem_cons.1 hdigits
    cases digits with
    | nil => rw [joinDigits?, if_pos hc]
    | cons d digits =>
      have hd : d ≠ '_' := by
        rintro rfl
        rw [hrest _ List.mem_cons_self] at hline
        cases hline
      rw [joinDigits?, if_pos hc, ih (List.cons_ne_nil _ _) hrest]
      · rfl
      · rintro e behind rfl
        exact absurd rfl hd

theorem natOfDigits_toDigits (n : Nat) : Binary64.natOfDigits (Nat.toDigits 10 n) = n := by
  induction n using Nat.strongRecOn with
  | ind n ih =>
    by_cases hn : n < 10
    · rw [Nat.toDigits_of_lt_base hn]
      show 0 * 10 + (n.digitChar.toNat - 48) = n
      rw [Nat.toNat_digitChar_sub_48_of_lt_ten hn, Nat.zero_mul, Nat.zero_add]
    · have hfewer := ih (n / 10) (by omega)
      unfold Binary64.natOfDigits at hfewer ⊢
      rw [Nat.toDigits_of_base_le (by decide) (Nat.not_lt.1 hn), List.foldl_append, hfewer]
      show n / 10 * 10 + ((n % 10).digitChar.toNat - 48) = n
      rw [Nat.toNat_digitChar_sub_48_of_lt_ten (by omega)]
      omega

/-- Only zero itself is written with a zero in front. -/
theorem head_toDigits {n : Nat} (hn : n ≠ 0) : (Nat.toDigits 10 n).head? ≠ some '0' := by
  induction n using Nat.strongRecOn with
  | ind n ih =>
    by_cases hless : n < 10
    · rw [Nat.toDigits_of_lt_base hless, List.head?_singleton]
      simpa using hn
    · have hfewer := ih (n / 10) (by omega) (by omega)
      rw [Nat.toDigits_of_base_le (by decide) (Nat.not_lt.1 hless),
        List.head?_append, List.head?_eq_some_head Nat.toDigits_ne_nil, Option.some_or,
        ← List.head?_eq_some_head Nat.toDigits_ne_nil]
      exact hfewer

theorem isDigit_of_mem_toDigits {n : Nat} {c : Char} (h : c ∈ Nat.toDigits 10 n) : c.isDigit = true :=
  Nat.isDigit_of_mem_toDigits (by decide) (by decide) h

theorem not_mem_toDigits {c : Char} (hc : c.isDigit = false) (n : Nat) : c ∉ Nat.toDigits 10 n := by
  intro hmem
  rw [isDigit_of_mem_toDigits hmem] at hc
  cases hc

theorem toDigits_ne_word {word : List Char} {c : Char} (hmem : c ∈ word) (hc : c.isDigit = false)
    (n : Nat) : Nat.toDigits 10 n ≠ word := by
  rintro rfl
  exact not_mem_toDigits hc n hmem

theorem wholeDigits?_toDigits (n : Nat) :
    wholeDigits? (Nat.toDigits 10 n) = some (Nat.toDigits 10 n) := by
  unfold wholeDigits?
  rw [joinDigits?_eq Nat.toDigits_ne_nil (fun c => isDigit_of_mem_toDigits) (by decide),
    Option.filter_some, if_pos]
  by_cases hn : n = 0
  · subst hn
    decide
  · rw [Bool.or_eq_true]
    exact Or.inr (decide_eq_true (head_toDigits hn))

theorem decimal?_toDigits {n : Nat} (hn : n < Nat.pow 2 63) :
    decimal? false (Nat.toDigits 10 n) = some (.integer n) := by
  have hmarks : (Nat.toDigits 10 n).takeWhile (fun c => !(decide (c = 'e') || decide (c = 'E'))) =
      Nat.toDigits 10 n := by
    refine List.takeWhile_eq_self_iff.2 fun c hc => ?_
    have he : c ≠ 'e' := ne_of_mem_of_not_mem hc (not_mem_toDigits rfl n)
    have hE : c ≠ 'E' := ne_of_mem_of_not_mem hc (not_mem_toDigits rfl n)
    simp [he, hE]
  have hpoint : (Nat.toDigits 10 n).takeWhile (fun c => decide (c ≠ '.')) = Nat.toDigits 10 n :=
    List.takeWhile_eq_self_iff.2 fun c hc =>
      decide_eq_true (ne_of_mem_of_not_mem hc (not_mem_toDigits rfl n))
  unfold decimal?
  dsimp only
  rw [hmarks, hpoint, List.drop_length, wholeDigits?_toDigits, Option.bind_some, natOfDigits_toDigits,
    List.isEmpty_nil, Bool.and_self, if_pos rfl, if_neg Bool.false_ne_true, integerItem?, if_pos]
  omega

/-- A number of up to 63 bits is read from its digits. -/
theorem number?_toDigits {n : Nat} (hn : n < Nat.pow 2 63) :
    number? (Nat.toDigits 10 n) = some (.integer n) := by
  have hmark : ∀ {mark : Char} {behind : List Char}, mark.isDigit = false →
      Nat.toDigits 10 n ≠ '0' :: mark :: behind := by
    intro mark behind hdigit heq
    refine not_mem_toDigits hdigit n ?_
    rw [heq]
    exact List.mem_cons_of_mem _ List.mem_cons_self
  have hsign : Binary64.splitSign (Nat.toDigits 10 n) = (false, Nat.toDigits 10 n) := by
    unfold Binary64.splitSign
    split
    · next heq => exact absurd (heq ▸ List.mem_cons_self) (not_mem_toDigits (c := '-') rfl n)
    · next heq => exact absurd (heq ▸ List.mem_cons_self) (not_mem_toDigits (c := '+') rfl n)
    · rfl
  unfold number?
  dsimp only
  split
  · next heq => exact absurd heq (hmark rfl)
  · next heq => exact absurd heq (hmark rfl)
  · next heq => exact absurd heq (hmark rfl)
  · rw [hsign]
    dsimp only
    rw [if_neg (toDigits_ne_word (c := 'i') (by decide) rfl n),
      if_neg (toDigits_ne_word (c := 'n') (by decide) rfl n)]
    exact decimal?_toDigits hn

/-! ## Scalars -/

/-- A word that something else follows is read as a whole. -/
theorem scalarWord_append {word rest : List Char} (hword : ∀ c ∈ word, isScalarChar c = true)
    (hend : rest.takeWhile isScalarChar = []) (hblank : rest.head? ≠ some ' ') :
    scalarWord (word ++ rest) = word := by
  have htake : (word ++ rest).takeWhile isScalarChar = word := by
    rw [List.takeWhile_append_of_pos hword, hend, List.append_nil]
  unfold scalarWord
  dsimp only
  rw [htake, List.drop_left]
  split
  · exact absurd rfl hblank
  · rfl

def scalarItem? (word : List Char) : Option Item :=
  if word = "true".toList then some (.bool true)
  else if word = "false".toList then some (.bool false)
  else number? word <|> (moment? word).map Item.text

/-- A scalar is the value of a word that the end of the line follows. -/
theorem readValue_scalar {word : List Char} (hne : word ≠ [])
    (hword : ∀ c ∈ word, isScalarChar c = true) (fuel : Nat) (rest : List Char) :
    readValue (fuel + 1) (word ++ '\n' :: rest) = readScalar (word ++ '\n' :: rest) := by
  cases word with
  | nil => exact absurd rfl hne
  | cons c word =>
    have hc := hword c List.mem_cons_self
    rw [readValue]
    all_goals
      rintro behind heq
      cases heq
      cases hc

theorem readScalar_word {word : List Char} (hword : ∀ c ∈ word, isScalarChar c = true)
    (rest : List Char) : readScalar (word ++ '\n' :: rest) =
      (scalarItem? word).map fun item => (item, '\n' :: rest) := by
  unfold readScalar
  dsimp only
  rw [scalarWord_append hword rfl (by simp), List.drop_left]
  rfl

theorem readValue_writeBool (b : Bool) (fuel : Nat) (rest : List Char) :
    readValue (fuel + 1) ((writeBool b).toList ++ '\n' :: rest) = some (.bool b, '\n' :: rest) := by
  cases b with
  | true =>
    rw [readValue_scalar (by decide) (List.all_eq_true.1 rfl),
      readScalar_word (List.all_eq_true.1 rfl)]
    rfl
  | false =>
    rw [readValue_scalar (by decide) (List.all_eq_true.1 rfl),
      readScalar_word (List.all_eq_true.1 rfl)]
    rfl

theorem readValue_number {n : Nat} (hn : n < Nat.pow 2 63) (fuel : Nat) (rest : List Char) :
    readValue (fuel + 1) ((toString n).toList ++ '\n' :: rest) = some (.integer n, '\n' :: rest) := by
  have hword : ∀ c ∈ Nat.toDigits 10 n, isScalarChar c = true := by
    intro c hc
    unfold isScalarChar Char.isAlphanum
    rw [isDigit_of_mem_toDigits hc, Bool.or_true, Bool.true_or]
  have hitem : scalarItem? (Nat.toDigits 10 n) = some (.integer n) := by
    unfold scalarItem?
    rw [if_neg (toDigits_ne_word (c := 't') (by decide) rfl n),
      if_neg (toDigits_ne_word (c := 'f') (by decide) rfl n), number?_toDigits hn]
    rfl
  rw [Nat.toString_eq_repr, Nat.toList_repr, readValue_scalar Nat.toDigits_ne_nil hword,
    readScalar_word hword, hitem]
  rfl

/-! ## Lines between values -/

/-- Characters that nothing is skipped in front of. -/
structure Solid (cs : List Char) : Prop where
  blanks : skipBlanks cs = cs
  comment : skipComment cs = some cs
  plain : lineBreak? cs = none

theorem skipLines_solid {cs : List Char} (h : Solid cs) (fuel : Nat) :
    skipLines (fuel + 1) cs = some cs := by
  rw [skipLines, h.blanks, h.comment, Option.bind_some, h.plain]

theorem skipLines_break (cs : List Char) (fuel : Nat) :
    skipLines (fuel + 1) ('\n' :: cs) = skipLines fuel cs := rfl

theorem skipLines_blank (cs : List Char) (fuel : Nat) :
    skipLines (fuel + 1) (' ' :: cs) = skipLines (fuel + 1) cs := rfl

theorem quote_head (text : List Char) :
    (∃ behind, quote text = '"' :: behind) ∨ ∃ behind, quote text = '\'' :: behind := by
  unfold quote
  dsimp only
  generalize styleOf text = style
  generalize text.contains '\n' = breaks
  cases style with
  | basic => exact Or.inl ⟨_, rfl⟩
  | literal => exact Or.inr ⟨_, rfl⟩
  | longBasic => cases breaks <;> exact Or.inl ⟨_, rfl⟩
  | longLiteral => cases breaks <;> exact Or.inr ⟨_, rfl⟩

theorem solid_quote (text rest : List Char) : Solid (quote text ++ rest) := by
  rcases quote_head text with ⟨behind, h⟩ | ⟨behind, h⟩
  · rw [h]
    exact ⟨rfl, rfl, rfl⟩
  · rw [h]
    exact ⟨rfl, rfl, rfl⟩

theorem readValue_quote (text : List Char) {rest : List Char} (hdouble : rest.head? ≠ some '"')
    (hsingle : rest.head? ≠ some '\'') (fuel : Nat) :
    readValue (fuel + 1) (quote text ++ rest) = some (.text (String.ofList text), rest) := by
  have hread := readString_quote text hdouble hsingle
  rcases quote_head text with ⟨behind, h⟩ | ⟨behind, h⟩
  · rw [h] at hread ⊢
    rw [List.cons_append, readValue, ← List.cons_append, hread]
    rfl
  · rw [h] at hread ⊢
    rw [List.cons_append, readValue, ← List.cons_append, hread]
    rfl

/-! ## Lists -/

def textLines (texts : List String) : List Char :=
  '\n' :: texts.flatMap fun text => "    ".toList ++ (quote text.toList ++ [',', '\n'])

theorem textLines_cons (text : String) (texts : List String) : textLines (text :: texts) =
    '\n' :: ' ' :: ' ' :: ' ' :: ' ' :: (quote text.toList ++ ',' :: textLines texts) := by
  simp [textLines]

theorem readItems_end {fuel : Nat} {cs rest : List Char}
    (h : skipLines (cs.length + 1) cs = some (']' :: rest)) :
    readItems (fuel + 1) cs = some (.list [], rest) := by
  rw [readItems, h]
  rfl

theorem skipLines_textLines (text : String) (texts : List String) (rest : List Char) :
    skipLines ((textLines (text :: texts) ++ rest).length + 1) (textLines (text :: texts) ++ rest) =
      some (quote text.toList ++ ',' :: (textLines texts ++ rest)) := by
  rw [textLines_cons]
  simp only [List.cons_append, List.append_assoc]
  rw [skipLines_break]
  simp only [List.length_cons, skipLines_blank]
  exact skipLines_solid (solid_quote _ _) _

/-- A value in a list with a comma behind it, and what is read from there. -/
theorem readItems_next {fuel : Nat} {cs value rest last : List Char} {item : Item} {items : List Item}
    (hskip : skipLines (cs.length + 1) cs = some value) (hvalue : value.head? ≠ some ']')
    (hread : readValue fuel value = some (item, ',' :: rest))
    (hrest : readItems fuel rest = some (.list items, last)) :
    readItems (fuel + 1) cs = some (.list (item :: items), last) := by
  rw [readItems, hskip]
  show Option.bind (some value) _ = _
  rw [Option.bind_some]
  split
  · exact absurd rfl hvalue
  · rw [hread]
    show (readItems fuel rest).bind _ = _
    rw [hrest]
    rfl

/-- The last value in a list. -/
theorem readItems_last {fuel : Nat} {cs value last : List Char} {item : Item}
    (hskip : skipLines (cs.length + 1) cs = some value) (hvalue : value.head? ≠ some ']')
    (hread : readValue fuel value = some (item, ']' :: last)) :
    readItems (fuel + 1) cs = some (.list [item], last) := by
  rw [readItems, hskip]
  show Option.bind (some value) _ = _
  rw [Option.bind_some]
  split
  · exact absurd rfl hvalue
  · rw [hread]
    rfl

theorem quote_head_ne (text rest : List Char) : (quote text ++ rest).head? ≠ some ']' := by
  rcases quote_head text with ⟨behind, h⟩ | ⟨behind, h⟩
  · simp [h]
  · simp [h]

/-- A list of texts on lines of their own is read as these texts. -/
theorem readItems_textLines (texts : List String) {fuel : Nat} (hfuel : texts.length < fuel)
    (rest : List Char) : readItems fuel (textLines texts ++ ']' :: rest) =
      some (.list (texts.map .text), rest) := by
  obtain ⟨fuel, rfl⟩ := Nat.exists_eq_add_one_of_ne_zero (Nat.ne_zero_of_lt hfuel)
  induction texts generalizing fuel with
  | nil => exact readItems_end (skipLines_break _ _)
  | cons text texts ih =>
    have hless : texts.length < fuel := Nat.lt_of_succ_lt_succ hfuel
    obtain ⟨less, rfl⟩ := Nat.exists_eq_add_one_of_ne_zero (Nat.ne_zero_of_lt hless)
    have hrest := ih less hless
    refine readItems_next (skipLines_textLines text texts _) (quote_head_ne _ _) ?_ hrest
    rw [readValue_quote text.toList (by simp) (by simp), String.ofList_toList]

theorem toList_writeText (text : String) : (writeText text).toList = quote text.toList :=
  String.toList_ofList

theorem toList_writeTexts (text next : String) (texts : List String) :
    (writeTexts (text :: next :: texts)).toList =
      '[' :: (textLines (text :: next :: texts) ++ [']']) := by
  have hlines : ∀ texts : List String,
      (String.join (texts.map fun text => "    " ++ writeText text ++ ",\n")).toList =
        texts.flatMap fun text => "    ".toList ++ (quote text.toList ++ [',', '\n']) := by
    intro texts
    rw [String.toList_join, List.flatMap_map]
    simp [toList_writeText]
  unfold writeTexts textLines
  simp [hlines, toList_writeText]

/-- A list of texts is read as it was written. -/
theorem readValue_writeTexts (texts : List String) {fuel : Nat} (hfuel : texts.length + 1 < fuel)
    (rest : List Char) : readValue fuel ((writeTexts texts).toList ++ rest) =
      some (.list (texts.map .text), rest) := by
  obtain ⟨fuel, rfl⟩ : ∃ n, fuel = n + 2 := ⟨fuel - 2, by omega⟩
  have hlist : ∀ cs, readValue (fuel + 2) ('[' :: cs) = readItems (fuel + 1) cs := fun cs => by
    rw [readValue]
  match texts with
  | [] =>
    show readValue (fuel + 2) ('[' :: ']' :: rest) = _
    rw [hlist]
    exact readItems_end rfl
  | [text] =>
    have hwritten :
        (writeTexts [text]).toList ++ rest = '[' :: (quote text.toList ++ ']' :: rest) := by
      simp [writeTexts, toList_writeText]
    have hmore : fuel ≠ 0 := by
      rw [List.length_singleton] at hfuel
      omega
    obtain ⟨fuel, rfl⟩ := Nat.exists_eq_add_one_of_ne_zero hmore
    rw [hwritten, hlist]
    refine readItems_last (skipLines_solid (solid_quote _ _) _) (quote_head_ne _ _) ?_
    rw [readValue_quote text.toList (by simp) (by simp), String.ofList_toList]
  | text :: next :: texts =>
    rw [toList_writeTexts, List.cons_append, List.append_assoc, List.singleton_append, hlist]
    exact readItems_textLines _ (by omega) rest

theorem length_le_textLines (texts : List String) : texts.length ≤ (textLines texts).length := by
  induction texts with
  | nil => exact Nat.zero_le _
  | cons text texts ih =>
    rw [textLines_cons]
    simp only [List.length_cons, List.length_append]
    omega

theorem length_lt_writeTexts (texts : List String) :
    texts.length + 1 < (writeTexts texts).length + 1 := by
  match texts with
  | [] => decide
  | [text] =>
    rw [← String.length_toList]
    simp [writeTexts]
  | text :: next :: texts =>
    have hlines := length_le_textLines (text :: next :: texts)
    rw [← String.length_toList, toList_writeTexts]
    simp only [List.length_cons, List.length_append] at hlines ⊢
    omega

/-! ## Values at the end of a line -/

/-- A text that is read as a value at the end of a line, and that no blank is in front of. -/
structure WrittenAs (value : String) (item : Item) : Prop where
  starts : ∀ rest, skipBlanks (value.toList ++ rest) = value.toList ++ rest
  reads : ∀ fuel rest, value.length < fuel →
    readValue fuel (value.toList ++ '\n' :: rest) = some (item, '\n' :: rest)

theorem writeTexts_head (texts : List String) :
    ∃ behind, (writeTexts texts).toList = '[' :: behind := by
  match texts with
  | [] => exact ⟨_, rfl⟩
  | [text] => exact ⟨(writeText text).toList ++ [']'], by simp [writeTexts]⟩
  | text :: next :: texts => exact ⟨_, toList_writeTexts text next texts⟩

theorem skipBlanks_of_head {cs : List Char} (h : ∀ c ∈ cs.head?, isBlankChar c = false)
    (hne : cs ≠ []) (rest : List Char) : skipBlanks (cs ++ rest) = cs ++ rest := by
  cases cs with
  | nil => exact absurd rfl hne
  | cons c cs => exact List.dropWhile_cons_of_neg (Bool.eq_false_iff.1 (h c rfl))

theorem writtenAs_bool (b : Bool) : WrittenAs (writeBool b) (.bool b) where
  starts rest := by cases b <;> rfl
  reads fuel rest hfuel := by
    obtain ⟨fuel, rfl⟩ := Nat.exists_eq_add_one_of_ne_zero (Nat.ne_zero_of_lt hfuel)
    exact readValue_writeBool b fuel rest

theorem writtenAs_number {n : Nat} (hn : n < Nat.pow 2 63) : WrittenAs (toString n) (.integer n) where
  starts rest := by
    rw [Nat.toString_eq_repr, Nat.toList_repr]
    refine skipBlanks_of_head (fun c hc => ?_) Nat.toDigits_ne_nil rest
    have hdigit := isDigit_of_mem_toDigits (List.mem_of_mem_head? hc)
    unfold isBlankChar
    rw [Bool.or_eq_false_iff]
    refine ⟨decide_eq_false ?_, decide_eq_false ?_⟩
    all_goals
      rintro rfl
      cases hdigit
  reads fuel rest hfuel := by
    obtain ⟨fuel, rfl⟩ := Nat.exists_eq_add_one_of_ne_zero (Nat.ne_zero_of_lt hfuel)
    exact readValue_number hn fuel rest

theorem writtenAs_text (text : String) : WrittenAs (writeText text) (.text text) where
  starts rest := by
    rw [toList_writeText]
    exact (solid_quote text.toList rest).blanks
  reads fuel rest hfuel := by
    obtain ⟨fuel, rfl⟩ := Nat.exists_eq_add_one_of_ne_zero (Nat.ne_zero_of_lt hfuel)
    rw [toList_writeText, readValue_quote text.toList (by simp) (by simp), String.ofList_toList]

theorem writtenAs_texts (texts : List String) :
    WrittenAs (writeTexts texts) (.list (texts.map .text)) where
  starts rest := by
    obtain ⟨behind, h⟩ := writeTexts_head texts
    rw [h]
    rfl
  reads fuel rest hfuel :=
    readValue_writeTexts texts (Nat.lt_of_lt_of_le (length_lt_writeTexts texts) hfuel) _

end Schemata.Toml

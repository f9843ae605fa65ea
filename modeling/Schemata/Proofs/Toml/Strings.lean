import Schemata.Toml.Scan
import Schemata.Toml.Writer

/-!
# Strings of TOML

What was written as a string is read as the same text, whatever the text holds and whichever of the
four kinds of strings was taken for it.

    a character is written as it is, as one of two quotes in a row, or as an escape
                                                                               (escapeBasic_cons)
    readBasic fuel (escapeBasic false n text ++ '"' :: rest) = some (text, rest)   (readBasic_written)
    readString (quote text ++ rest) = some (text, rest)                           (readString_quote)
    readSimpleKey (writeKey key ++ rest) = some (key, rest)                  (readSimpleKey_writeKey)
-/

namespace Schemata.Toml

/-! ## Characters -/

theorem not_isForbidden {c : Char} (h : needsEscape c = false) (hbreak : c ≠ '\n') :
    isForbidden c = false := by
  unfold needsEscape at h
  unfold isForbidden
  simpa [hbreak] using h

theorem ne_of_contains {text : List Char} {c d : Char} (h : text.contains d = false) (hc : c ∈ text) :
    c ≠ d := by
  rintro rfl
  rw [List.contains_iff_mem.2 hc] at h
  cases h

/-- Without controls a text holds nothing that is forbidden in a line but line breaks. -/
theorem not_isForbidden_of_mem {text : List Char} (h : text.any needsEscape = false) {c : Char}
    (hc : c ∈ text) (hbreak : c ≠ '\n') : isForbidden c = false :=
  not_isForbidden (Bool.eq_false_iff.2 (List.any_eq_false.1 h c hc)) hbreak

theorem ne_of_not_isForbidden {c d : Char} (h : isForbidden c = false) (hd : isForbidden d = true) :
    c ≠ d := by
  rintro rfl
  rw [h] at hd
  cases hd

/-- What is behind the backslash of an escape for a character. It is no line break, with or without
blanks in front of it. -/
structure EscapeOf (c : Char) (escape : List Char) : Prop where
  reads : ∀ rest, readEscape (escape ++ rest) = some (c, rest)
  stays : ∀ rest, skipContinuation? (escape ++ rest) = none

theorem charOfHex?_hexDigits : ∀ n < 128,
    charOfHex? ['0', '0', hexDigit (n / 16), hexDigit (n % 16)] = some (Char.ofNat n) := by
  decide

theorem escapeOf_hexDigits {c : Char} (hc : c.toNat < 128) :
    EscapeOf c ['u', '0', '0', hexDigit (c.toNat / 16), hexDigit (c.toNat % 16)] where
  reads rest := by
    have hcode := charOfHex?_hexDigits c.toNat hc
    rw [Char.ofNat_toNat] at hcode
    simp [readEscape, hcode]
  stays rest := rfl

/-- What cannot stand in a line is written as an escape for it. -/
theorem escapeControl_spec {c : Char} (h : c = '\t' ∨ c = '\n' ∨ needsEscape c = true) :
    ∃ escape, escapeControl c = '\\' :: escape ∧ EscapeOf c escape := by
  have hcode : c.toNat < 128 := by
    rcases h with rfl | rfl | h
    · decide
    · decide
    · unfold needsEscape at h
      simp only [Bool.or_eq_true, Bool.and_eq_true, decide_eq_true_eq] at h
      omega
  unfold escapeControl
  split
  · next hc => exact ⟨['b'], rfl, fun _ => by rw [hc]; rfl, fun _ => rfl⟩
  split
  · next hc => exact ⟨['t'], rfl, fun _ => by rw [hc]; rfl, fun _ => rfl⟩
  split
  · next hc => exact ⟨['n'], rfl, fun _ => by rw [hc]; rfl, fun _ => rfl⟩
  split
  · next hc => exact ⟨['f'], rfl, fun _ => by rw [hc]; rfl, fun _ => rfl⟩
  split
  · next hc => exact ⟨['r'], rfl, fun _ => by rw [hc]; rfl, fun _ => rfl⟩
  · exact ⟨_, rfl, escapeOf_hexDigits hcode⟩

/-- How a character is written in a basic string: as an escape, as one of two quotes in a row of a
long string, or as it is. -/
theorem escapeBasic_cons (long : Bool) (quotes : Nat) (c : Char) (text : List Char) :
    (∃ escape, EscapeOf c escape ∧
      escapeBasic long quotes (c :: text) = '\\' :: (escape ++ escapeBasic long 0 text)) ∨
    (c = '"' ∧ long = true ∧ quotes < 2 ∧
      escapeBasic long quotes (c :: text) = '"' :: escapeBasic long (quotes + 1) text) ∨
    (c ≠ '"' ∧ c ≠ '\\' ∧ (isForbidden c = false ∨ (long = true ∧ c = '\n')) ∧
      escapeBasic long quotes (c :: text) = c :: escapeBasic long 0 text) := by
  rw [escapeBasic]
  split
  · next hquote =>
    subst hquote
    split
    · next hlong =>
      rw [Bool.and_eq_true, decide_eq_true_eq] at hlong
      exact Or.inr (Or.inl ⟨rfl, hlong.1, hlong.2, rfl⟩)
    · exact Or.inl ⟨['"'], ⟨fun _ => rfl, fun _ => rfl⟩, rfl⟩
  next hquote =>
  split
  · next hslash =>
    subst hslash
    exact Or.inl ⟨['\\'], ⟨fun _ => rfl, fun _ => rfl⟩, rfl⟩
  next hslash =>
  split
  · next hbreak =>
    obtain ⟨rfl, hlong⟩ := hbreak
    exact Or.inr (Or.inr ⟨hquote, hslash, Or.inr ⟨hlong, rfl⟩, rfl⟩)
  split
  · next hcontrol =>
    obtain ⟨escape, hescape, hreads⟩ := escapeControl_spec hcontrol
    rw [hescape]
    exact Or.inl ⟨escape, hreads, rfl⟩
  · next hcontrol =>
    obtain ⟨-, hbreak, hescape⟩ : c ≠ '\t' ∧ c ≠ '\n' ∧ ¬ needsEscape c = true := by
      simpa only [not_or] using hcontrol
    have hplain := not_isForbidden (Bool.eq_false_iff.2 hescape) hbreak
    exact Or.inr (Or.inr ⟨hquote, hslash, Or.inl hplain, rfl⟩)

theorem length_le_escapeBasic (long : Bool) (quotes : Nat) (text : List Char) :
    text.length ≤ (escapeBasic long quotes text).length := by
  induction text generalizing quotes with
  | nil => exact Nat.zero_le _
  | cons c text ih =>
    rcases escapeBasic_cons long quotes c text with
      ⟨escape, -, h⟩ | ⟨-, -, -, h⟩ | ⟨-, -, -, h⟩
    · rw [h, List.length_cons, List.length_cons, List.length_append]
      exact Nat.succ_le_succ (Nat.le_trans (ih 0) (Nat.le_add_left _ _))
    · rw [h]
      exact Nat.succ_le_succ (ih (quotes + 1))
    · rw [h]
      exact Nat.succ_le_succ (ih 0)

/-! ## Strings on a line -/

theorem readBasic_written (text rest : List Char) {fuel : Nat} (quotes : Nat)
    (hfuel : text.length < fuel) :
    readBasic fuel (escapeBasic false quotes text ++ '"' :: rest) = some (text, rest) := by
  obtain ⟨fuel, rfl⟩ := Nat.exists_eq_add_one_of_ne_zero (Nat.ne_zero_of_lt hfuel)
  induction text generalizing fuel quotes with
  | nil => rfl
  | cons c text ih =>
    have hless : text.length < fuel := Nat.lt_of_succ_lt_succ hfuel
    obtain ⟨less, rfl⟩ := Nat.exists_eq_add_one_of_ne_zero (Nat.ne_zero_of_lt hless)
    rcases escapeBasic_cons false quotes c text with
      ⟨escape, hescape, h⟩ | ⟨-, hlong, -, -⟩ | ⟨hquote, hslash, hplain, h⟩
    · rw [h, List.cons_append, List.append_assoc, readBasic, if_neg (by decide), if_pos rfl,
        hescape.reads]
      show (readBasic (less + 1) _ >>= fun read => pure (c :: read.1, read.2)) = _
      rw [ih 0 less hless]
      rfl
    · cases hlong
    · have hforbidden : isForbidden c = false := by
        rcases hplain with hplain | ⟨hlong, -⟩
        · exact hplain
        · cases hlong
      rw [h, List.cons_append, readBasic, if_neg hquote, if_neg hslash, hforbidden,
        if_neg Bool.false_ne_true, ih 0 less hless]
      rfl

theorem readLiteral_written {text : List Char} (rest : List Char)
    (hplain : ∀ c ∈ text, c ≠ '\'' ∧ isForbidden c = false) :
    readLiteral (text ++ '\'' :: rest) = some (text, rest) := by
  have htext : ∀ c ∈ text, (decide (c ≠ '\'') && !isForbidden c) = true := by
    intro c hc
    rw [(hplain c hc).2, Bool.not_false, Bool.and_true]
    exact decide_eq_true (hplain c hc).1
  have htake :
      (text ++ '\'' :: rest).takeWhile (fun c => decide (c ≠ '\'') && !isForbidden c) = text := by
    rw [List.takeWhile_append_of_pos htext]
    simp
  unfold readLiteral
  dsimp only
  rw [htake, List.drop_left]
  exact Option.some_inj.2 rfl

/-! ## Long strings -/

theorem closeLong?_eq_none {quote : Char} {cs : List Char}
    (h : (cs.takeWhile (· = quote)).length ≤ 2) : closeLong? quote cs = none := by
  unfold closeLong?
  exact if_pos (Nat.lt_succ_of_le h)

/-- Up to two quotes before the closing ones belong to the text. -/
theorem closeLong?_closing {quote : Char} {kept : Nat} (hkept : kept ≤ 2) {rest : List Char}
    (hrest : rest.head? ≠ some quote) :
    closeLong? quote (List.replicate kept quote ++ ([quote, quote, quote] ++ rest)) =
      some (List.replicate kept quote, rest) := by
  have hquotes : (List.replicate kept quote ++ ([quote, quote, quote] ++ rest)).takeWhile (· = quote) =
      List.replicate (kept + 3) quote := by
    have hbehind : rest.takeWhile (· = quote) = [] := by
      cases rest with
      | nil => rfl
      | cons c rest => exact List.takeWhile_cons_of_neg (by simpa using hrest)
    rw [List.takeWhile_append_of_pos (by simp), List.takeWhile_append_of_pos (by simp), hbehind,
      List.append_nil, ← List.replicate_append_replicate]
    rfl
  unfold closeLong?
  dsimp only
  rw [hquotes, List.length_replicate, if_neg (by omega), Nat.add_sub_cancel, Nat.min_eq_left hkept,
    ← List.drop_drop, List.drop_left' List.length_replicate]
  rfl

/-- Quotes at the start of a long basic string: it holds nothing else, or there are two at most. -/
theorem escapeBasic_quotes (text : List Char) {quotes : Nat} (hquotes : quotes ≤ 2) :
    (∃ kept ≤ 2 - quotes, text = List.replicate kept '"' ∧ escapeBasic true quotes text = text) ∨
      ∀ rest, ((escapeBasic true quotes text ++ rest).takeWhile (· = '"')).length ≤ 2 - quotes := by
  induction text generalizing quotes with
  | nil => exact Or.inl ⟨0, Nat.zero_le _, rfl, rfl⟩
  | cons c text ih =>
    rcases escapeBasic_cons true quotes c text with
      ⟨escape, -, h⟩ | ⟨rfl, -, hless, h⟩ | ⟨hquote, -, -, h⟩
    · refine Or.inr fun rest => ?_
      rw [h, List.cons_append, List.takeWhile_cons_of_neg (by decide)]
      exact Nat.zero_le _
    · rw [h]
      rcases ih (Nat.succ_le_of_lt hless) with ⟨kept, hkept, htext, hwritten⟩ | hrun
      · refine Or.inl ⟨kept + 1, by omega, ?_, by rw [hwritten]⟩
        rw [htext, List.replicate_succ]
      · refine Or.inr fun rest => ?_
        rw [List.cons_append, List.takeWhile_cons_of_pos (by decide), List.length_cons]
        have hfewer := hrun rest
        rw [Nat.succ_eq_add_one] at hfewer
        omega
    · refine Or.inr fun rest => ?_
      rw [h, List.cons_append, List.takeWhile_cons_of_neg (by simpa using hquote)]
      exact Nat.zero_le _

theorem readLongChar_plain {c : Char} (hplain : isForbidden c = false) (rest : List Char) :
    readLongChar (c :: rest) = some (c, rest) := by
  have hreturn : c ≠ '\x0d' := ne_of_not_isForbidden hplain rfl
  have hbreak : c ≠ '\n' := ne_of_not_isForbidden hplain rfl
  unfold readLongChar
  split
  · next h => cases h; exact absurd rfl hreturn
  · next h => cases h; exact absurd rfl hbreak
  · next h =>
    cases h
    rw [hplain, if_neg Bool.false_ne_true]
  · next h => cases h

theorem readLongBasic_closed {cs : List Char} {closed : List Char × List Char}
    (h : closeLong? '"' cs = some closed) (fuel : Nat) :
    readLongBasic (fuel + 1) cs = some closed := by
  unfold readLongBasic
  rw [h]

/-- An escape in a long basic string stands for its character. -/
theorem readLongBasic_escape {c : Char} {escape rest text behind : List Char} (h : EscapeOf c escape)
    {fuel : Nat} (hrest : readLongBasic fuel rest = some (text, behind)) :
    readLongBasic (fuel + 1) ('\\' :: (escape ++ rest)) = some (c :: text, behind) := by
  have hopen : closeLong? '"' ('\\' :: (escape ++ rest)) = none := closeLong?_eq_none (Nat.zero_le _)
  unfold readLongBasic
  rw [hopen]
  dsimp only
  split
  · next hcs =>
    cases hcs
    rw [h.stays, h.reads]
    show (readLongBasic fuel rest >>= fun read => pure (c :: read.1, read.2)) = _
    rw [hrest]
    rfl
  · next hcs => exact absurd rfl (hcs _)

/-- A character in a long basic string stands for itself. -/
theorem readLongBasic_char {c : Char} {rest text behind : List Char}
    (hopen : closeLong? '"' (c :: rest) = none) (hslash : c ≠ '\\')
    (hchar : readLongChar (c :: rest) = some (c, rest)) {fuel : Nat}
    (hrest : readLongBasic fuel rest = some (text, behind)) :
    readLongBasic (fuel + 1) (c :: rest) = some (c :: text, behind) := by
  unfold readLongBasic
  rw [hopen]
  dsimp only
  split
  · next hcs =>
    cases hcs
    exact absurd rfl hslash
  · rw [hchar]
    show (readLongBasic fuel rest >>= fun read => pure (c :: read.1, read.2)) = _
    rw [hrest]
    rfl

theorem readLongBasic_written (text : List Char) {rest : List Char} (hrest : rest.head? ≠ some '"')
    {fuel quotes : Nat} (hfuel : text.length < fuel) (hquotes : quotes ≤ 2) :
    readLongBasic fuel (escapeBasic true quotes text ++ (['"', '"', '"'] ++ rest)) =
      some (text, rest) := by
  obtain ⟨fuel, rfl⟩ := Nat.exists_eq_add_one_of_ne_zero (Nat.ne_zero_of_lt hfuel)
  rcases escapeBasic_quotes text hquotes with ⟨kept, hkept, htext, hwritten⟩ | hrun
  · -- only quotes are left, which are read together with the closing ones
    rw [hwritten, htext]
    exact readLongBasic_closed (closeLong?_closing (by omega) hrest) fuel
  have hopen := closeLong?_eq_none (Nat.le_trans (hrun (['"', '"', '"'] ++ rest)) (Nat.sub_le _ _))
  cases text with
  | nil =>
    have hfew := hrun ['"', '"', '"']
    exact absurd hfew (by simp [escapeBasic]; omega)
  | cons c text =>
    have hless : text.length < fuel := Nat.lt_of_succ_lt_succ hfuel
    rcases escapeBasic_cons true quotes c text with
      ⟨escape, hescape, h⟩ | ⟨rfl, -, hmore, h⟩ | ⟨-, hslash, hplain, h⟩
    · rw [h, List.cons_append, List.append_assoc]
      exact readLongBasic_escape hescape (readLongBasic_written text hrest hless (Nat.zero_le _))
    · rw [h, List.cons_append] at hopen ⊢
      exact readLongBasic_char hopen (by decide) rfl (readLongBasic_written text hrest hless hmore)
    · rw [h, List.cons_append] at hopen ⊢
      have hchar : ∀ behind, readLongChar (c :: behind) = some (c, behind) := by
        intro behind
        rcases hplain with hplain | ⟨-, rfl⟩
        · exact readLongChar_plain hplain behind
        · rfl
      exact readLongBasic_char hopen hslash (hchar _)
        (readLongBasic_written text hrest hless (Nat.zero_le _))

/-! ## Long literal strings -/

theorem le_longestRun (wanted : Char) (run : Nat) (text : List Char) :
    run + (text.takeWhile (· = wanted)).length ≤ longestRun wanted run text := by
  induction text generalizing run with
  | nil => exact Nat.le_refl _
  | cons c text ih =>
    rw [longestRun]
    split
    · next hc =>
      rw [List.takeWhile_cons_of_pos (by simpa using hc), List.length_cons]
      have hmore := ih (run + 1)
      omega
    · next hc =>
      rw [List.takeWhile_cons_of_neg (by simpa using hc)]
      exact Nat.le_max_left _ _

theorem longestRun_mono (wanted : Char) {run more : Nat} (h : run ≤ more) (text : List Char) :
    longestRun wanted run text ≤ longestRun wanted more text := by
  induction text generalizing run more with
  | nil => exact h
  | cons c text ih =>
    rw [longestRun, longestRun]
    split
    · exact ih (Nat.succ_le_succ h)
    · omega

theorem longestRun_tail (wanted c : Char) (text : List Char) :
    longestRun wanted 0 text ≤ longestRun wanted 0 (c :: text) := by
  rw [longestRun]
  split
  · exact longestRun_mono wanted (Nat.zero_le _) text
  · exact Nat.le_max_right _ _

/-- A text without three quotes in a row holds nothing but up to two quotes, or there are two at most
in front of something else. -/
theorem quotes_of_longestRun {wanted : Char} {text : List Char} (h : longestRun wanted 0 text ≤ 2) :
    (∃ kept ≤ 2, text = List.replicate kept wanted) ∨
      ∀ rest, ((text ++ rest).takeWhile (· = wanted)).length ≤ 2 := by
  have hrun : (text.takeWhile (· = wanted)).length ≤ 2 := by
    have hlongest := le_longestRun wanted 0 text
    omega
  by_cases hall : (text.takeWhile (· = wanted)).length = text.length
  · refine Or.inl ⟨text.length, by omega, List.eq_replicate_iff.2 ⟨rfl, fun c hc => ?_⟩⟩
    rw [← (List.takeWhile_prefix (· = wanted)).eq_of_length hall] at hc
    exact of_decide_eq_true (List.all_eq_true.1 List.all_takeWhile c hc)
  · refine Or.inr fun rest => ?_
    rw [List.takeWhile_append, if_neg hall]
    exact hrun

theorem readLongLiteral_written (text : List Char) {rest : List Char} (hrest : rest.head? ≠ some '\'')
    (hplain : ∀ c ∈ text, c = '\n' ∨ isForbidden c = false) (hruns : longestRun '\'' 0 text ≤ 2)
    {fuel : Nat} (hfuel : text.length < fuel) :
    readLongLiteral fuel (text ++ (['\'', '\'', '\''] ++ rest)) = some (text, rest) := by
  obtain ⟨fuel, rfl⟩ := Nat.exists_eq_add_one_of_ne_zero (Nat.ne_zero_of_lt hfuel)
  rcases quotes_of_longestRun hruns with ⟨kept, hkept, htext⟩ | hrun
  · unfold readLongLiteral
    rw [htext, closeLong?_closing hkept hrest]
  cases text with
  | nil => exact absurd (hrun ['\'', '\'', '\'']) (by decide)
  | cons c text =>
    obtain ⟨hc, hplain⟩ := List.forall_mem_cons.1 hplain
    have hchar : ∀ behind, readLongChar (c :: behind) = some (c, behind) := by
      intro behind
      rcases hc with rfl | hc
      · rfl
      · exact readLongChar_plain hc behind
    have hread := readLongLiteral_written text hrest hplain
      (Nat.le_trans (longestRun_tail _ c text) hruns) (Nat.lt_of_succ_lt_succ hfuel)
    unfold readLongLiteral
    rw [closeLong?_eq_none (hrun _), List.cons_append, hchar]
    show (readLongLiteral fuel _ >>= fun read => pure (c :: read.1, read.2)) = _
    rw [hread]
    rfl

/-! ## Strings of any kind -/

theorem not_mem_of_longestRun {wanted : Char} {text : List Char} (h : longestRun wanted 0 text = 0) :
    wanted ∉ text := by
  induction text with
  | nil => exact List.not_mem_nil
  | cons c text ih =>
    have htail := longestRun_tail wanted c text
    rw [h] at htail
    have hrest := ih (Nat.eq_zero_of_le_zero htail)
    refine List.not_mem_cons_of_ne_of_not_mem ?_ hrest
    rintro rfl
    have hrun := le_longestRun wanted 0 (wanted :: text)
    rw [h, List.takeWhile_cons_of_pos (by simp)] at hrun
    exact absurd hrun (by simp)

/-- A literal string holds no quote and nothing that has to be an escape. -/
theorem styleOf_literal {text : List Char} (h : styleOf text = .literal) :
    ∀ c ∈ text, c ≠ '\'' ∧ isForbidden c = false := by
  unfold styleOf at h
  dsimp only at h
  split at h
  · cases h
  split at h
  · next hliteral =>
    simp only [Bool.and_eq_true, Bool.not_eq_true', decide_eq_true_eq] at hliteral
    obtain ⟨⟨hcontrols, hbreaks⟩, hsingles⟩ := hliteral
    intro c hc
    exact ⟨ne_of_mem_of_not_mem hc (not_mem_of_longestRun hsingles),
      not_isForbidden_of_mem hcontrols hc (ne_of_contains hbreaks hc)⟩
  split at h
  · cases h
  split at h
  · cases h
  · split at h <;> cases h

/-- A long literal string holds up to two quotes in a row and nothing that has to be an escape. -/
theorem styleOf_longLiteral {text : List Char} (h : styleOf text = .longLiteral) :
    (∀ c ∈ text, c = '\n' ∨ isForbidden c = false) ∧ longestRun '\'' 0 text ≤ 2 := by
  unfold styleOf at h
  dsimp only at h
  split at h
  · cases h
  split at h
  · cases h
  split at h
  · cases h
  split at h
  · next hlong =>
    simp only [Bool.and_eq_true, Bool.not_eq_true', decide_eq_true_eq] at hlong
    refine ⟨fun c hc => ?_, hlong.2⟩
    rcases Decidable.em (c = '\n') with hbreak | hbreak
    · exact Or.inl hbreak
    · exact Or.inr (not_isForbidden_of_mem hlong.1 hc hbreak)
  · split at h <;> cases h

theorem lineBreak?_eq_none {cs : List Char} (hbreak : cs.head? ≠ some '\n')
    (hreturn : cs.head? ≠ some '\x0d') : lineBreak? cs = none := by
  unfold lineBreak?
  split
  · exact absurd rfl hbreak
  · exact absurd rfl hreturn
  · rfl

/-- Closing quotes on a line are not taken for the start of a long string. -/
theorem ne_two_quotes {quote : Char} {written rest : List Char} (hwritten : written.head? ≠ some quote)
    (hrest : rest.head? ≠ some quote) (behind : List Char) :
    written ++ quote :: rest ≠ quote :: quote :: behind := by
  intro heq
  cases written with
  | nil =>
    cases heq
    exact hrest rfl
  | cons c written =>
    rw [List.cons_append, List.cons.injEq] at heq
    exact hwritten (congrArg some heq.1)

theorem readString_basic {cs : List Char} (h : ∀ behind, cs ≠ '"' :: '"' :: behind) :
    readString ('"' :: cs) = readBasic (cs.length + 2) cs := by
  unfold readString
  dsimp only
  split
  · next heq =>
    cases heq
    exact absurd rfl (h _)
  · next heq => cases heq
  · next heq =>
    cases heq
    rfl
  · next heq => cases heq
  · next hne _ => exact absurd rfl (hne _)

theorem readString_literal {cs : List Char} (h : ∀ behind, cs ≠ '\'' :: '\'' :: behind) :
    readString ('\'' :: cs) = readLiteral cs := by
  unfold readString
  dsimp only
  split
  · next heq => cases heq
  · next heq =>
    cases heq
    exact absurd rfl (h _)
  · next heq => cases heq
  · next heq =>
    cases heq
    rfl
  · next hne => exact absurd rfl (hne _)

/-- A line break behind long opening quotes does not count, and without one there is none. -/
theorem behindBreak_opening (breaks : Bool) {cs : List Char}
    (h : breaks = false → cs.head? ≠ some '\n' ∧ cs.head? ≠ some '\x0d') :
    (lineBreak? (if breaks then '\n' :: cs else cs)).getD (if breaks then '\n' :: cs else cs) =
      cs := by
  cases breaks with
  | true => rfl
  | false =>
    rw [if_neg Bool.false_ne_true, lineBreak?_eq_none (h rfl).1 (h rfl).2]
    rfl

/-- Three quotes, a line break if there is one in the text, the text as it is written, and quotes
again. -/
theorem opening_append (breaks : Bool) (quotes written rest : List Char) :
    (if breaks then quotes ++ ['\n'] else quotes) ++ written ++ quotes ++ rest =
      quotes ++ (if breaks then '\n' :: (written ++ (quotes ++ rest))
        else written ++ (quotes ++ rest)) := by
  cases breaks <;> simp

theorem readString_longBasic {breaks : Bool} {cs : List Char}
    (h : breaks = false → cs.head? ≠ some '\n' ∧ cs.head? ≠ some '\x0d') :
    ∃ fuel > cs.length, readString (['"', '"', '"'] ++ if breaks then '\n' :: cs else cs) =
      readLongBasic fuel cs := by
  refine ⟨(['"', '"', '"'] ++ if breaks then '\n' :: cs else cs).length + 1, ?_, ?_⟩
  · cases breaks <;> simp <;> omega
  · exact congrArg (readLongBasic _) (behindBreak_opening breaks h)

theorem readString_longLiteral {breaks : Bool} {cs : List Char}
    (h : breaks = false → cs.head? ≠ some '\n' ∧ cs.head? ≠ some '\x0d') :
    ∃ fuel > cs.length, readString (['\'', '\'', '\''] ++ if breaks then '\n' :: cs else cs) =
      readLongLiteral fuel cs := by
  refine ⟨(['\'', '\'', '\''] ++ if breaks then '\n' :: cs else cs).length + 1, ?_, ?_⟩
  · cases breaks <;> simp <;> omega
  · exact congrArg (readLongLiteral _) (behindBreak_opening breaks h)

/-- A written text starts with no line break if it holds none. -/
theorem escapeBasic_head {text rest : List Char} (hbreaks : text.contains '\n' = false)
    (hrest : rest.head? ≠ some '\n' ∧ rest.head? ≠ some '\x0d') :
    (escapeBasic true 0 text ++ rest).head? ≠ some '\n' ∧
      (escapeBasic true 0 text ++ rest).head? ≠ some '\x0d' := by
  cases text with
  | nil => exact hrest
  | cons c text =>
    rcases escapeBasic_cons true 0 c text with
      ⟨escape, -, h⟩ | ⟨-, -, -, h⟩ | ⟨-, -, hplain, h⟩
    · rw [h]
      exact ⟨by simp, by simp⟩
    · rw [h]
      exact ⟨by simp, by simp⟩
    · have hc : c ≠ '\n' := ne_of_contains hbreaks List.mem_cons_self
      have hreturn : c ≠ '\x0d' := by
        rcases hplain with hplain | ⟨-, hbreak⟩
        · exact ne_of_not_isForbidden hplain rfl
        · exact absurd hbreak hc
      rw [h]
      exact ⟨by simpa using hc, by simpa using hreturn⟩

/-- What is written as a string is read as the same text, if no quote follows. -/
theorem readString_quote (text : List Char) {rest : List Char} (hdouble : rest.head? ≠ some '"')
    (hsingle : rest.head? ≠ some '\'') : readString (quote text ++ rest) = some (text, rest) := by
  unfold quote
  dsimp only
  generalize hstyle : styleOf text = style
  cases style with
  | basic =>
    have hhead : (escapeBasic false 0 text).head? ≠ some '"' := by
      cases text with
      | nil => simp [escapeBasic]
      | cons c text =>
        rcases escapeBasic_cons false 0 c text with
          ⟨escape, -, h⟩ | ⟨-, hlong, -, -⟩ | ⟨hquote, -, -, h⟩
        · rw [h]
          simp
        · cases hlong
        · rw [h]
          simpa using hquote
    dsimp only
    rw [List.cons_append, List.cons_append, List.append_assoc, List.singleton_append,
      readString_basic (ne_two_quotes hhead hdouble), readBasic_written]
    rw [List.length_append]
    exact Nat.lt_of_le_of_lt (length_le_escapeBasic false 0 text) (by omega)
  | literal =>
    have hplain := styleOf_literal hstyle
    have hhead : text.head? ≠ some '\'' := fun h => (hplain _ (List.mem_of_head? h)).1 rfl
    dsimp only
    rw [List.cons_append, List.cons_append, List.append_assoc, List.singleton_append,
      readString_literal (ne_two_quotes hhead hsingle), readLiteral_written rest hplain]
  | longBasic =>
    have hquotes : (['"', '"', '"'] ++ rest).head? ≠ some '\n' ∧
        (['"', '"', '"'] ++ rest).head? ≠ some '\x0d' := ⟨by simp, by simp⟩
    dsimp only
    rw [opening_append]
    obtain ⟨fuel, hfuel, hread⟩ := readString_longBasic fun hbreaks =>
      escapeBasic_head hbreaks hquotes
    rw [hread, readLongBasic_written text hdouble ?_ (Nat.zero_le _)]
    rw [List.length_append] at hfuel
    have hlength := length_le_escapeBasic true 0 text
    omega
  | longLiteral =>
    obtain ⟨hplain, hruns⟩ := styleOf_longLiteral hstyle
    have hhead : text.contains '\n' = false →
        (text ++ (['\'', '\'', '\''] ++ rest)).head? ≠ some '\n' ∧
          (text ++ (['\'', '\'', '\''] ++ rest)).head? ≠ some '\x0d' := by
      intro hbreaks
      cases text with
      | nil => exact ⟨by simp, by simp⟩
      | cons c text =>
        have hc : c ≠ '\n' := ne_of_contains hbreaks List.mem_cons_self
        have hreturn : c ≠ '\x0d' :=
          ne_of_not_isForbidden ((hplain c List.mem_cons_self).resolve_left hc) rfl
        exact ⟨by simpa using hc, by simpa using hreturn⟩
    dsimp only
    rw [opening_append]
    obtain ⟨fuel, hfuel, hread⟩ := readString_longLiteral hhead
    rw [hread, readLongLiteral_written text hsingle hplain hruns]
    rw [List.length_append] at hfuel
    omega

/-! ## Keys -/

theorem readSimpleKey_bare {key rest : List Char} (hkey : key ≠ [])
    (hbare : ∀ c ∈ key, isBareKeyChar c = true) (hrest : rest.takeWhile isBareKeyChar = []) :
    readSimpleKey (key ++ rest) = some (String.ofList key, rest) := by
  have htake : (key ++ rest).takeWhile isBareKeyChar = key := by
    rw [List.takeWhile_append_of_pos hbare, hrest, List.append_nil]
  cases key with
  | nil => exact absurd rfl hkey
  | cons c key =>
    have hc := hbare c List.mem_cons_self
    unfold readSimpleKey
    split
    · next heq =>
      cases heq
      cases hc
    · next heq =>
      cases heq
      cases hc
    · rw [htake]
      dsimp only
      rw [if_neg (by simp), List.drop_left]

/-- A key is read as it was written. -/
theorem readSimpleKey_writeKey (key : String) {rest : List Char}
    (hrest : rest.takeWhile isBareKeyChar = []) :
    readSimpleKey ((writeKey key).toList ++ rest) = some (key, rest) := by
  have hbasic : readSimpleKey ((String.ofList
      ('"' :: escapeBasic false 0 key.toList ++ ['"'])).toList ++ rest) = some (key, rest) := by
    rw [String.toList_ofList, List.cons_append, List.cons_append, List.append_assoc]
    show (readBasic _ _).map _ = _
    rw [List.singleton_append, readBasic_written, Option.map_some]
    · dsimp only
      rw [String.ofList_toList]
    rw [List.length_cons, List.length_append]
    have hlength := length_le_escapeBasic false 0 key.toList
    omega
  unfold writeKey
  dsimp only
  split
  · next hbare =>
    simp only [Bool.and_eq_true, Bool.not_eq_true', List.isEmpty_eq_false_iff,
      List.all_eq_true] at hbare
    rw [readSimpleKey_bare hbare.1 hbare.2 hrest, String.ofList_toList]
  split
  · exact hbasic
  split
  · next hliteral =>
    simp only [Bool.and_eq_true, Bool.not_eq_true', Bool.or_eq_false_iff] at hliteral
    obtain ⟨⟨hcontrols, hbreaks⟩, hquotes⟩ := hliteral
    have hplain : ∀ c ∈ key.toList, c ≠ '\'' ∧ isForbidden c = false := fun c hc =>
      ⟨ne_of_contains hquotes hc, not_isForbidden_of_mem hcontrols hc (ne_of_contains hbreaks hc)⟩
    rw [String.toList_ofList, List.cons_append, List.cons_append, List.append_assoc]
    show (readLiteral _).map _ = _
    rw [List.singleton_append, readLiteral_written rest hplain, Option.map_some]
    dsimp only
    rw [String.ofList_toList]
  · exact hbasic

end Schemata.Toml

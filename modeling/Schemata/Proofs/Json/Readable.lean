import Mathlib.Data.List.TakeWhile
import Mathlib.Data.Set.Function
import Schemata.Json.Printer
import Schemata.Json.Reader
import Schemata.Proofs.Outcomes
import Schemata.Proofs.Toml.Values

/-!
# Compact texts can be read in one way

The compact text of a document says where it ends and which document it is: with anything behind it
that does not go on a number, it is the text of no other document. Each kind of document starts with
characters of its own; a string ends with the first quote that is not escaped, a number with the first
character of another kind, and a container at the bracket that closes it.

Doubles are the exception. That different ones are written differently is taken from elsewhere, for those
that there are. Integers are written without the point or exponent that each double has.

    readString (escaped text ++ '"' :: rest) = text and rest                       (readString_escaped)
    two numbers, two strings or two lists with something behind them are the same, if the texts are
                                        (ReadsApart.number, ReadsApart.string, ReadsApart.separated)
    documents with the same compact text are the same                               (compact_inj)
-/

namespace Schemata.Json

/-! ## Algorithm -/

/-- A character of a number. -/
def isNumeral (c : Char) : Bool := c.isDigit || c = '-' || c = '+' || c = '.' || c = 'e'

/-- What stands behind a value: it does not go on a number. -/
def Stops (rest : List Char) : Prop := ∀ c ∈ rest.head?, isNumeral c = false

/-- What two values are written as tells them apart, and where they end, with anything behind them that
does not go on a number. -/
def ReadsApart {α : Type} (written : α → List Char) (a b : α) : Prop :=
  ∀ rest rest', Stops rest → Stops rest' → written a ++ rest = written b ++ rest' → a = b ∧ rest = rest'

mutual
def Value.doubles : Value → List Binary64
  | .number (.double x) => [x]
  | .array items => doublesItems items
  | .object members => doublesMembers members
  | _ => []

def Value.doublesItems : List Value → List Binary64
  | [] => []
  | item :: items => item.doubles ++ doublesItems items

/-- The doubles of members. -/
def Value.doublesMembers : List (String × Value) → List Binary64
  | [] => []
  | (_, member) :: members => member.doubles ++ doublesMembers members
end

/-- Two values of one kind. Each of the values true and false is a kind of its own. -/
inductive SameKind : Value → Value → Prop
  | null : SameKind .null .null
  | bool (b : Bool) : SameKind (.bool b) (.bool b)
  | number (n m : Number) : SameKind (.number n) (.number m)
  | string (s t : String) : SameKind (.string s) (.string t)
  | array (items items' : List Value) : SameKind (.array items) (.array items')
  | object (members members' : List (String × Value)) : SameKind (.object members) (.object members')

/-- The character that a compact text starts with, where all characters of numbers are taken for one. -/
def Value.lead : Value → Char
  | .null => 'n'
  | .bool true => 't'
  | .bool false => 'f'
  | .number _ => '0'
  | .string _ => '"'
  | .array _ => '['
  | .object _ => '\x7b'

/-- What stands behind an item of a list: other items, and the bracket that closes the list. -/
def behindItem (close : Char) (rest : List Char) : List (List Char) → List Char
  | [] => close :: rest
  | other :: others => ',' :: ([','].intercalate (other :: others) ++ close :: rest)

def memberText (member : String × Value) : List Char :=
  (quote member.1).toList ++ ':' :: member.2.compact.toList

/-! ## Strings -/

theorem hexNumber?_hexFour : ∀ n < 32, hexNumber? (hexFour n) = some n := by decide

theorem length_hexFour : ∀ n < 32, (hexFour n).length = 4 := by decide

theorem utf8Size_hexFour : ∀ n < 32,
    (hexFour n).foldl (fun bytes digit => bytes + digit.utf8Size) 0 = 4 := by decide

theorem readHexFour_hexFour {n : Nat} (hn : n < 32) (rest : List Char) (offset : Nat) :
    ∃ offset', readHexFour ⟨hexFour n ++ rest, offset⟩ = .ok (n, ⟨rest, offset'⟩) := by
  have hlength := length_hexFour n hn
  have htake : (hexFour n ++ rest).take 4 = hexFour n := by
    rw [← hlength, List.take_left]
  have hdrop : (hexFour n ++ rest).drop 4 = rest := by
    rw [← hlength, List.drop_left]
  unfold readHexFour
  dsimp only
  rw [htake, utf8Size_hexFour n hn, if_neg (by decide), hexNumber?_hexFour n hn, hdrop]
  exact ⟨_, rfl⟩

/-- A character of a string is written as an escape for it, or as it is. -/
theorem escapeChar_cases (c : Char) :
    (∃ escape, escapeChar c = '\\' :: escape ∧ ∀ rest offset, ∃ offset',
      readEscape ⟨escape ++ rest, offset⟩ = .ok (c, ⟨rest, offset'⟩)) ∨
    (c ≠ '"' ∧ c ≠ '\\' ∧ ¬ c.toNat < 0x20 ∧ escapeChar c = [c]) := by
  unfold escapeChar
  split
  · next hc => exact Or.inl ⟨['"'], rfl, fun _ _ => ⟨_, by rw [hc]; rfl⟩⟩
  next hquote =>
  split
  · next hc => exact Or.inl ⟨['\\'], rfl, fun _ _ => ⟨_, by rw [hc]; rfl⟩⟩
  next hslash =>
  split
  · next hc => exact Or.inl ⟨['b'], rfl, fun _ _ => ⟨_, by rw [hc]; rfl⟩⟩
  split
  · next hc => exact Or.inl ⟨['f'], rfl, fun _ _ => ⟨_, by rw [hc]; rfl⟩⟩
  split
  · next hc => exact Or.inl ⟨['n'], rfl, fun _ _ => ⟨_, by rw [hc]; rfl⟩⟩
  split
  · next hc => exact Or.inl ⟨['r'], rfl, fun _ _ => ⟨_, by rw [hc]; rfl⟩⟩
  split
  · next hc => exact Or.inl ⟨['t'], rfl, fun _ _ => ⟨_, by rw [hc]; rfl⟩⟩
  split
  · next hcode =>
    refine Or.inl ⟨'u' :: hexFour c.toNat, rfl, fun rest offset => ?_⟩
    obtain ⟨offset', hhex⟩ := readHexFour_hexFour hcode rest (offset + 'u'.utf8Size)
    refine ⟨offset', ?_⟩
    show readUnicodeEscape ⟨hexFour c.toNat ++ rest, offset + 'u'.utf8Size⟩ = _
    unfold readUnicodeEscape
    rw [hhex, ok_bind]
    dsimp only
    rw [if_neg (by omega), if_pos (by omega), Char.ofNat_toNat]
  · next hcontrol => exact Or.inr ⟨hquote, hslash, hcontrol, rfl⟩

/-- The reader of strings takes what was written as a string, and nothing behind it. -/
theorem readString_escaped (text rest read : List Char) (offset : Nat) {fuel : Nat}
    (hfuel : text.length < fuel) :
    ∃ offset', readString ⟨text.flatMap escapeChar ++ '"' :: rest, offset⟩ read fuel =
      .ok (String.ofList (read.reverse ++ text), ⟨rest, offset'⟩) := by
  induction text generalizing read offset fuel with
  | nil =>
    obtain ⟨fuel, rfl⟩ := Nat.exists_eq_add_one_of_ne_zero (Nat.ne_zero_of_lt hfuel)
    rw [List.append_nil]
    exact ⟨_, rfl⟩
  | cons c text ih =>
    obtain ⟨fuel, rfl⟩ := Nat.exists_eq_add_one_of_ne_zero (Nat.ne_zero_of_lt hfuel)
    have hless : text.length < fuel := Nat.lt_of_succ_lt_succ hfuel
    have hread : read.reverse ++ c :: text = (c :: read).reverse ++ text := by simp
    rw [List.flatMap_cons, List.append_assoc, hread]
    rcases escapeChar_cases c with ⟨escape, hescape, hreads⟩ | ⟨hquote, hslash, hcontrol, hplain⟩
    · obtain ⟨offset', hc⟩ := hreads (text.flatMap escapeChar ++ '"' :: rest) (offset + '\\'.utf8Size)
      obtain ⟨offset'', hrest⟩ := ih (c :: read) offset' hless
      refine ⟨offset'', ?_⟩
      rw [hescape]
      show (readEscape ⟨escape ++ (text.flatMap escapeChar ++ '"' :: rest),
        offset + '\\'.utf8Size⟩ >>= fun next => readString next.2 (next.1 :: read) fuel) = _
      rw [hc, ok_bind]
      exact hrest
    · obtain ⟨offset', hrest⟩ := ih (c :: read) (offset + c.utf8Size) hless
      refine ⟨offset', ?_⟩
      rw [hplain, List.singleton_append, ← hrest, readString]
      simp [Cursor.peek?, Cursor.advance, hcontrol]

theorem ReadsApart.string (s t : String) : ReadsApart (fun text => (quote text).toList) s t := by
  intro rest rest' _ _ heq
  dsimp only at heq
  unfold quote at heq
  rw [String.toList_ofList, String.toList_ofList, List.append_assoc, List.append_assoc,
    List.singleton_append, List.singleton_append, List.cons_append, List.cons_append] at heq
  have hinner := (List.cons.inj heq).2
  have hs : s.toList.length < s.toList.length + t.toList.length + 1 := by omega
  have ht : t.toList.length < s.toList.length + t.toList.length + 1 := by omega
  obtain ⟨offset, hread⟩ := readString_escaped s.toList rest [] 0 hs
  obtain ⟨offset', hread'⟩ := readString_escaped t.toList rest' [] 0 ht
  rw [hinner, hread'] at hread
  simp only [List.reverse_nil, List.nil_append, String.ofList_toList, Except.ok.injEq,
    Prod.mk.injEq, Cursor.mk.injEq] at hread
  exact ⟨hread.1.symm, hread.2.1.symm⟩

/-! ## Numbers -/

theorem isNumeral_of_isDigit {c : Char} (h : c.isDigit = true) : isNumeral c = true := by
  unfold isNumeral
  rw [h]
  rfl

theorem isNumeral_of_mem_toDigits {n : Nat} {c : Char} (h : c ∈ Nat.toDigits 10 n) :
    isNumeral c = true :=
  isNumeral_of_isDigit (Toml.isDigit_of_mem_toDigits h)

/-- What is written in numerals alone ends with the last of them. -/
theorem numeral_append {text text' rest rest' : List Char} (h : ∀ c ∈ text, isNumeral c = true)
    (h' : ∀ c ∈ text', isNumeral c = true) (hrest : Stops rest) (hrest' : Stops rest')
    (heq : text ++ rest = text' ++ rest') : text = text' ∧ rest = rest' := by
  have htake : ∀ {text rest : List Char}, (∀ c ∈ text, isNumeral c = true) → Stops rest →
      (text ++ rest).takeWhile isNumeral = text := by
    intro text rest htext hstops
    rw [List.takeWhile_append_of_pos htext]
    cases rest with
    | nil => simp
    | cons c rest => simp [hstops c rfl]
  have htexts := congrArg (List.takeWhile isNumeral) heq
  rw [htake h hrest, htake h' hrest'] at htexts
  subst htexts
  exact ⟨rfl, List.append_cancel_left heq⟩

/-- An integer is written in digits, perhaps with a sign in front of them. -/
theorem mem_toString_int {i : Int} {c : Char} (h : c ∈ (toString i).toList) :
    c = '-' ∨ c.isDigit = true := by
  rw [Int.toString_eq_repr, Int.repr_eq_if] at h
  split at h
  · rw [Nat.toList_repr] at h
    exact Or.inr (Toml.isDigit_of_mem_toDigits h)
  · rw [String.toList_append, Nat.toList_repr, List.mem_append] at h
    rcases h with hsign | hdigits
    · exact Or.inl (List.mem_singleton.1 hsign)
    · exact Or.inr (Toml.isDigit_of_mem_toDigits hdigits)

theorem toDigits_inj {m n : Nat} (h : Nat.toDigits 10 m = Nat.toDigits 10 n) : m = n := by
  rw [← Toml.natOfDigits_toDigits m, h, Toml.natOfDigits_toDigits]

/-- Different integers are written differently. -/
theorem toString_int_inj {i j : Int} (h : toString i = toString j) : i = j := by
  have hsign : ∀ m n : Nat, Nat.toDigits 10 m ≠ '-' :: Nat.toDigits 10 n := by
    intro m n heq
    exact Toml.not_mem_toDigits rfl m (heq ▸ List.mem_cons_self)
  have hlist := congrArg String.toList h
  rw [Int.toString_eq_repr, Int.toString_eq_repr, Int.repr_eq_if, Int.repr_eq_if] at hlist
  split at hlist
  · split at hlist
    · rw [Nat.toList_repr, Nat.toList_repr] at hlist
      have hvalue := toDigits_inj hlist
      omega
    · rw [String.toList_append, Nat.toList_repr, Nat.toList_repr] at hlist
      exact absurd hlist (hsign _ _)
  · split at hlist
    · rw [String.toList_append, Nat.toList_repr, Nat.toList_repr] at hlist
      exact absurd hlist.symm (hsign _ _)
    · rw [String.toList_append, String.toList_append, Nat.toList_repr, Nat.toList_repr] at hlist
      have hvalue := toDigits_inj (List.append_cancel_left hlist)
      omega

theorem isDigit_of_mem_shortest {x : Binary64} {c : Char} (h : c ∈ x.shortest.1) :
    c.isDigit = true := by
  unfold Binary64.shortest at h
  split at h
  · rw [List.mem_singleton.1 h]
    rfl
  · exact Toml.isDigit_of_mem_toDigits h

/-- A double is written in digits around a point or a marked exponent, or both. -/
theorem scientific_numerals (x : Binary64) :
    (∀ c ∈ x.scientific.toList, isNumeral c = true) ∧
      ('.' ∈ x.scientific.toList ∨ 'e' ∈ x.scientific.toList) := by
  have hdigits : ∀ c ∈ x.shortest.1, isNumeral c = true :=
    fun c hc => isNumeral_of_isDigit (isDigit_of_mem_shortest hc)
  have hsign : ∀ c ∈ (if x.isNegative = true then ['-'] else []), isNumeral c = true := by
    split
    · exact List.forall_mem_singleton.2 rfl
    · exact List.forall_mem_nil _
  have hzeros : ∀ n, ∀ c ∈ Binary64.zeros n, isNumeral c = true := by
    intro n c hc
    rw [List.eq_of_mem_replicate hc]
    rfl
  have htake : ∀ n, ∀ c ∈ x.shortest.1.take n, isNumeral c = true :=
    fun n c hc => hdigits c (List.mem_of_mem_take hc)
  have hdrop : ∀ n, ∀ c ∈ x.shortest.1.drop n, isNumeral c = true :=
    fun n c hc => hdigits c (List.mem_of_mem_drop hc)
  unfold Binary64.scientific
  dsimp only
  rw [String.toList_ofList]
  generalize (if x.isNegative = true then ['-'] else []) = sign at hsign ⊢
  split
  -- zeros behind the point, a point behind all digits, a point between them, and an exponent
  · refine ⟨?_, Or.inl (by simp)⟩
    simp only [List.forall_mem_append]
    exact ⟨hsign, ⟨by simp [isNumeral], hzeros _⟩, hdigits⟩
  split
  · split
    · refine ⟨?_, Or.inl (by simp)⟩
      simp only [List.forall_mem_append]
      exact ⟨hsign, ⟨hdigits, hzeros _⟩, by simp [isNumeral]⟩
    · refine ⟨?_, Or.inl (by simp)⟩
      simp only [List.forall_mem_append]
      exact ⟨hsign, ⟨htake _, by simp [isNumeral]⟩, hdrop _⟩
  · have hmark : ∀ c ∈ (if x.shortest.2 - 1 < 0 then ['e', '-'] else ['e', '+']),
        isNumeral c = true := by
      split <;> simp [isNumeral]
    have hexponent : 'e' ∈ (if x.shortest.2 - 1 < 0 then ['e', '-'] else ['e', '+']) := by
      split <;> simp
    refine ⟨?_, Or.inr ?_⟩
    · simp only [List.forall_mem_append]
      refine ⟨hsign, ⟨⟨htake 1, ?_⟩, hmark⟩, fun c => isNumeral_of_mem_toDigits⟩
      split
      · exact List.forall_mem_nil _
      · exact List.forall_mem_cons.2 ⟨rfl, hdrop 1⟩
    · simp only [List.mem_append]
      exact Or.inr (Or.inl (Or.inr hexponent))

/-- All characters of a number are numerals. -/
theorem isNumeral_of_mem_text {n : Number} {c : Char} (h : c ∈ n.text.toList) :
    isNumeral c = true := by
  cases n with
  | integer i =>
    rcases mem_toString_int h with rfl | hdigit
    · rfl
    · exact isNumeral_of_isDigit hdigit
  | double x => exact (scientific_numerals x).1 c h

/-- No integer is written as a double is. -/
theorem toString_ne_scientific (i : Int) (x : Binary64) : toString i ≠ x.scientific := by
  intro heq
  have hmark := (scientific_numerals x).2
  rw [← heq] at hmark
  rcases hmark with hpoint | hexponent
  · rcases mem_toString_int hpoint with h | h
    · exact absurd h (by decide)
    · exact absurd h (by decide)
  · rcases mem_toString_int hexponent with h | h
    · exact absurd h (by decide)
    · exact absurd h (by decide)

theorem ReadsApart.number {n m : Number}
    (hdoubles : ∀ x y, n = .double x → m = .double y → x.scientific = y.scientific → x = y) :
    ReadsApart (fun number => number.text.toList) n m := by
  intro rest rest' hrest hrest' heq
  obtain ⟨htext, hbehind⟩ := numeral_append (fun c => isNumeral_of_mem_text)
    (fun c => isNumeral_of_mem_text) hrest hrest' heq
  refine ⟨?_, hbehind⟩
  rw [String.toList_inj] at htext
  cases n with
  | integer i =>
    cases m with
    | integer j => rw [toString_int_inj htext]
    | double y => exact absurd htext (toString_ne_scientific i y)
  | double x =>
    cases m with
    | integer j => exact absurd htext.symm (toString_ne_scientific j x)
    | double y => rw [hdoubles x y rfl rfl htext]

/-! ## Lists -/

theorem intercalate_append (text : List Char) (others : List (List Char)) (close : Char)
    (rest : List Char) :
    [','].intercalate (text :: others) ++ close :: rest = text ++ behindItem close rest others := by
  cases others with
  | nil => rw [List.intercalate_singleton, behindItem]
  | cons other others =>
    rw [List.intercalate_cons_cons, behindItem, List.append_assoc, List.append_assoc,
      List.singleton_append]

theorem stops_behindItem {close : Char} (hclose : isNumeral close = false) (rest : List Char)
    (others : List (List Char)) : Stops (behindItem close rest others) := by
  cases others with
  | nil =>
    rintro c hc
    cases hc
    exact hclose
  | cons other others =>
    rintro c hc
    cases hc
    rfl

/-- Lists are told apart as their items are, if no item starts like the bracket that closes them. -/
theorem ReadsApart.separated {α : Type} {written : α → List Char} {close : Char}
    (hclose : isNumeral close = false) (hcomma : close ≠ ',') {items items' : List α}
    (hlead : ∀ item, (written item).head? ≠ some close ∧ written item ≠ [])
    (hitems : ∀ item ∈ items, ∀ item' ∈ items', ReadsApart written item item') {rest rest' : List Char}
    (heq : [','].intercalate (items.map written) ++ close :: rest =
      [','].intercalate (items'.map written) ++ close :: rest') : items = items' ∧ rest = rest' := by
  have hopens : ∀ item others rest rest',
      close :: rest ≠ [','].intercalate (written item :: others) ++ close :: rest' := by
    intro item others rest rest' heq
    rw [intercalate_append] at heq
    obtain ⟨hhead, hne⟩ := hlead item
    cases hwritten : written item with
    | nil => exact hne hwritten
    | cons c text =>
      rw [hwritten] at heq hhead
      exact hhead (congrArg some (List.cons.inj heq).1.symm)
  induction items generalizing items' with
  | nil =>
    cases items' with
    | nil => exact ⟨rfl, (List.cons.inj heq).2⟩
    | cons item' items' => exact absurd heq (hopens item' _ rest rest')
  | cons item items ih =>
    cases items' with
    | nil => exact absurd heq.symm (hopens item _ rest' rest)
    | cons item' items' =>
      rw [List.map_cons, List.map_cons, intercalate_append, intercalate_append] at heq
      obtain ⟨rfl, hbehind⟩ := hitems item List.mem_cons_self item' List.mem_cons_self
        _ _ (stops_behindItem hclose rest _) (stops_behindItem hclose rest' _) heq
      have hrest := fun item hmem item' hmem' =>
        hitems item (List.mem_cons_of_mem _ hmem) item' (List.mem_cons_of_mem _ hmem')
      cases items with
      | nil =>
        cases items' with
        | nil => exact ⟨rfl, (List.cons.inj hbehind).2⟩
        | cons other' items' => exact absurd (List.cons.inj hbehind).1 hcomma
      | cons other items =>
        cases items' with
        | nil => exact absurd (List.cons.inj hbehind).1.symm hcomma
        | cons other' items' =>
          obtain ⟨heqs, hends⟩ := ih hrest (List.cons.inj hbehind).2
          exact ⟨congrArg (item :: ·) heqs, hends⟩

/-! ## Documents -/

/-- What holds of containers if it does of all that they hold is true of every document. -/
@[elab_as_elim]
theorem Value.induction {P : Value → Prop} (null : P .null) (bool : ∀ b, P (.bool b))
    (number : ∀ n, P (.number n)) (string : ∀ s, P (.string s))
    (array : ∀ items, (∀ item ∈ items, P item) → P (.array items))
    (object : ∀ members, (∀ member ∈ members, P member.2) → P (.object members))
    (document : Value) : P document :=
  @Value.rec P (fun items => ∀ item ∈ items, P item) (fun members => ∀ member ∈ members, P member.2)
    (fun member => P member.2) null bool number string array object (List.forall_mem_nil _)
    (fun _ _ hfirst hrest => List.forall_mem_cons.2 ⟨hfirst, hrest⟩) (List.forall_mem_nil _)
    (fun _ _ hfirst hrest => List.forall_mem_cons.2 ⟨hfirst, hrest⟩) (fun _ _ hmember => hmember)
    document

theorem toList_compactItems (items : List Value) :
    (Value.compactItems items).toList = [','].intercalate (items.map fun item => item.compact.toList) := by
  induction items with
  | nil => rfl
  | cons item items ih =>
    cases items with
    | nil => rw [Value.compactItems, List.map_singleton, List.intercalate_singleton]
    | cons other items =>
      rw [Value.compactItems, String.toList_append, String.toList_append, ih, List.map_cons,
        List.map_cons, List.map_cons, List.intercalate_cons_cons]
      · rfl
      · exact List.cons_ne_nil _ _

theorem toList_compactMembers (members : List (String × Value)) :
    (Value.compactMembers members).toList = [','].intercalate (members.map memberText) := by
  induction members with
  | nil => rfl
  | cons member members ih =>
    cases members with
    | nil =>
      rw [Value.compactMembers, List.map_singleton, List.intercalate_singleton, String.toList_append,
        String.toList_append]
      simp [memberText]
    | cons other members =>
      rw [Value.compactMembers, String.toList_append, ih, List.map_cons, List.map_cons,
        List.map_cons, List.intercalate_cons_cons]
      · simp [memberText]
      · exact List.cons_ne_nil _ _

theorem toList_compact_array (items : List Value) :
    (Value.array items).compact.toList =
      '[' :: ([','].intercalate (items.map fun item => item.compact.toList) ++ [']']) := by
  rw [Value.compact, String.toList_append, String.toList_append, toList_compactItems]
  rfl

theorem toList_compact_object (members : List (String × Value)) :
    (Value.object members).compact.toList =
      '\x7b' :: ([','].intercalate (members.map memberText) ++ ['\x7d']) := by
  rw [Value.compact, String.toList_append, String.toList_append, toList_compactMembers]
  rfl

theorem text_ne_nil (n : Number) : n.text.toList ≠ [] := by
  intro hnil
  cases n with
  | integer i =>
    rw [Number.text, Int.toString_eq_repr, Int.repr_eq_if] at hnil
    split at hnil
    · rw [Nat.toList_repr] at hnil
      exact Nat.toDigits_ne_nil hnil
    · rw [String.toList_append] at hnil
      exact absurd (List.append_eq_nil_iff.1 hnil).1 (by decide)
  | double x =>
    have hmark := (scientific_numerals x).2
    rw [Number.text] at hnil
    rw [hnil] at hmark
    rcases hmark with h | h
    · cases h
    · cases h

/-- The first character of a compact text shows the kind of the document. -/
theorem compact_lead (document : Value) : ∃ c text, document.compact.toList = c :: text ∧
    (if isNumeral c = true then '0' else c) = document.lead := by
  cases document with
  | null => exact ⟨_, _, rfl, rfl⟩
  | bool b =>
    cases b with
    | true => exact ⟨_, _, rfl, rfl⟩
    | false => exact ⟨_, _, rfl, rfl⟩
  | number n =>
    obtain ⟨c, text, htext⟩ := List.exists_cons_of_ne_nil (text_ne_nil n)
    have hc : isNumeral c = true := isNumeral_of_mem_text (htext ▸ List.mem_cons_self)
    exact ⟨c, text, htext, if_pos hc⟩
  | string s =>
    refine ⟨'"', s.toList.flatMap escapeChar ++ ['"'], ?_, rfl⟩
    rw [Value.compact, quote, String.toList_ofList]
    rfl
  | array items => exact ⟨_, _, toList_compact_array items, rfl⟩
  | object members => exact ⟨_, _, toList_compact_object members, rfl⟩

theorem sameKind_of_lead {v w : Value} (h : v.lead = w.lead) : SameKind v w := by
  rcases v with _ | (_ | _) | n | s | items | members <;>
    rcases w with _ | (_ | _) | m | t | items' | members' <;>
    first
    | constructor
    | exact absurd h (by simp [Value.lead])

theorem sameKind_of_compact {v w : Value} {rest rest' : List Char}
    (heq : v.compact.toList ++ rest = w.compact.toList ++ rest') : SameKind v w := by
  obtain ⟨c, text, htext, hlead⟩ := compact_lead v
  obtain ⟨c', text', htext', hlead'⟩ := compact_lead w
  rw [htext, htext'] at heq
  have hc : c = c' := (List.cons.inj heq).1
  apply sameKind_of_lead
  rw [← hlead, ← hlead', hc]

theorem lead_ne (document : Value) : document.lead ≠ ']' := by
  rcases document with _ | (_ | _) | n | s | items | members <;> simp [Value.lead]

/-- No document starts with the bracket that closes an array. -/
theorem compact_opens (document : Value) :
    document.compact.toList.head? ≠ some ']' ∧ document.compact.toList ≠ [] := by
  obtain ⟨c, text, htext, hlead⟩ := compact_lead document
  rw [htext]
  refine ⟨fun hhead => ?_, List.cons_ne_nil c text⟩
  have hc : c = ']' := by simpa using hhead
  subst hc
  exact lead_ne document hlead.symm

theorem memberText_opens (member : String × Value) :
    (memberText member).head? ≠ some '\x7d' ∧ memberText member ≠ [] := by
  unfold memberText quote
  rw [String.toList_ofList]
  simp

/-- Members are told apart as their values are. -/
theorem ReadsApart.member {member member' : String × Value}
    (h : ReadsApart (fun document => document.compact.toList) member.2 member'.2) :
    ReadsApart memberText member member' := by
  intro rest rest' hrest hrest' heq
  unfold memberText at heq
  rw [List.append_assoc, List.append_assoc, List.cons_append, List.cons_append] at heq
  have hcolon : ∀ text, Stops (':' :: text) := by
    rintro text c hc
    cases hc
    rfl
  obtain ⟨hkey, hbehind⟩ := ReadsApart.string member.1 member'.1 _ _ (hcolon _) (hcolon _) heq
  obtain ⟨hvalue, hends⟩ := h rest rest' hrest hrest' (List.cons.inj hbehind).2
  exact ⟨Prod.ext hkey hvalue, hends⟩

theorem mem_doublesItems {items : List Value} {x : Binary64} :
    x ∈ Value.doublesItems items ↔ ∃ item ∈ items, x ∈ item.doubles := by
  induction items with
  | nil => simp [Value.doublesItems]
  | cons item items ih => simp [Value.doublesItems, ih]

theorem mem_doublesMembers {members : List (String × Value)} {x : Binary64} :
    x ∈ Value.doublesMembers members ↔ ∃ member ∈ members, x ∈ member.2.doubles := by
  induction members with
  | nil => simp [Value.doublesMembers]
  | cons member members ih => simp [Value.doublesMembers, ih]

/-- Documents are told apart by their compact texts, if their doubles are by theirs. -/
theorem ReadsApart.document {doubles : Set Binary64} (hinj : doubles.InjOn Binary64.scientific)
    (v w : Value) (hv : ∀ x ∈ v.doubles, x ∈ doubles) (hw : ∀ x ∈ w.doubles, x ∈ doubles) :
    ReadsApart (fun document => document.compact.toList) v w := by
  intro rest rest' hrest hrest' heq
  have hkind := sameKind_of_compact heq
  induction v using Value.induction generalizing w rest rest' with
  | null =>
    cases hkind
    exact ⟨rfl, List.append_cancel_left heq⟩
  | bool b =>
    cases hkind
    exact ⟨rfl, List.append_cancel_left heq⟩
  | number n =>
    cases hkind with
    | number n m =>
      have hapart : ReadsApart (fun number => number.text.toList) n m := .number fun x y hx hy =>
        hinj (hv x (by rw [hx]; exact List.mem_singleton_self x))
          (hw y (by rw [hy]; exact List.mem_singleton_self y))
      obtain ⟨rfl, hends⟩ := hapart rest rest' hrest hrest' heq
      exact ⟨rfl, hends⟩
  | string s =>
    cases hkind with
    | string s t =>
      obtain ⟨rfl, hends⟩ := ReadsApart.string s t rest rest' hrest hrest' heq
      exact ⟨rfl, hends⟩
  | array items ih =>
    cases hkind with
    | array items items' =>
      dsimp only at heq
      rw [toList_compact_array, toList_compact_array, List.cons_append, List.cons_append,
        List.append_assoc, List.append_assoc] at heq
      have hitems : ∀ item ∈ items, ∀ item' ∈ items',
          ReadsApart (fun document => document.compact.toList) item item' :=
        fun item hmem item' hmem' rest rest' hrest hrest' heq =>
          ih item hmem item' (fun x hx => hv x (mem_doublesItems.2 ⟨item, hmem, hx⟩))
            (fun x hx => hw x (mem_doublesItems.2 ⟨item', hmem', hx⟩)) rest rest' hrest hrest' heq
            (sameKind_of_compact heq)
      obtain ⟨rfl, hends⟩ := ReadsApart.separated rfl (by decide) compact_opens hitems
        (List.cons.inj heq).2
      exact ⟨rfl, hends⟩
  | object members ih =>
    cases hkind with
    | object members members' =>
      dsimp only at heq
      rw [toList_compact_object, toList_compact_object, List.cons_append, List.cons_append,
        List.append_assoc, List.append_assoc] at heq
      have hmembers : ∀ member ∈ members, ∀ member' ∈ members',
          ReadsApart memberText member member' :=
        fun member hmem member' hmem' => .member fun rest rest' hrest hrest' heq =>
          ih member hmem member'.2 (fun x hx => hv x (mem_doublesMembers.2 ⟨member, hmem, hx⟩))
            (fun x hx => hw x (mem_doublesMembers.2 ⟨member', hmem', hx⟩)) rest rest' hrest hrest' heq
            (sameKind_of_compact heq)
      obtain ⟨rfl, hends⟩ := ReadsApart.separated rfl (by decide) memberText_opens hmembers
        (List.cons.inj heq).2
      exact ⟨rfl, hends⟩

/-- A compact text is the text of one document. -/
theorem compact_inj {v w : Value}
    (hinj : {x | x ∈ v.doubles ++ w.doubles}.InjOn Binary64.scientific)
    (heq : v.compact = w.compact) : v = w := by
  have hapart := ReadsApart.document hinj v w (fun x hx => List.mem_append_left _ hx)
    (fun x hx => List.mem_append_right _ hx)
  have hstops : Stops [] := by
    rintro c hc
    cases hc
  refine (hapart [] [] hstops hstops ?_).1
  dsimp only
  rw [heq]

end Schemata.Json

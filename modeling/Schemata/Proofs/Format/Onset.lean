import Schemata.Format.Guarded
import Schemata.Proofs.Outcomes
import Schemata.Proofs.Unicode.CodeRanges

/-!
# Onsets miss no character

The onset of a class holds, for every character of the class, one that is like it, and two onsets with
a character in common overlap. Which characters are alike is told by a key, such that folding under
the flags adds only characters with the key of another one. As long as letter case counts, every
character is its own key.

    a and b hold c → a.overlaps b                                          (overlaps_of_holds)
    for the characters of a class there are like ones in its onset         (holdsLike_ofClass)
-/

namespace Schemata

open Unicode (CodeRanges)

/-! ## Flags -/

namespace Pattern.Flags

variable {flags : Flags}

/-- Folding under flags adds nothing to a set but characters with the key of one in the set. -/
def FoldsBy {α : Type} (key : Char → α) (flags : Flags) : Prop :=
  ∀ (set : CodeRanges) (c : Char), CodeRanges.contains (flags.fold set) c.toNat = true →
    ∃ d : Char, key d = key c ∧ CodeRanges.contains set d.toNat = true

/-- Where letter case counts, a set is taken as it is written. -/
theorem fold_eq (hcase : flags.caseInsensitive = false) (set : CodeRanges) :
    flags.fold set = set := by
  unfold fold
  rw [hcase]
  rfl

theorem foldsBy_id (hcase : flags.caseInsensitive = false) : flags.FoldsBy id := by
  intro set c hc
  rw [fold_eq hcase] at hc
  exact ⟨c, rfl, hc⟩

theorem classChar_eq {l : Literal} {n : Nat} (h : flags.classChar l = .ok n) :
    n = l.char.toNat := by
  unfold classChar at h
  split at h
  · cases h
    rfl
  · cases h

theorem apply_caseInsensitive {change : FlagChange} (hchange : .caseInsensitive ∉ change.on)
    (hcase : flags.caseInsensitive = false) : (flags.apply change).caseInsensitive = false := by
  simp only [apply, FlagChange.state?, if_neg hchange]
  split
  · rfl
  · exact hcase

end Pattern.Flags

namespace Format

open Pattern (Flags)

/-! ## Onsets -/

/-- A widened set holds a character. -/
def Onset.Holds (set : Onset) (c : Char) : Prop :=
  set.any = true ∨ (set.beyondAscii = true ∧ 128 ≤ c.toNat) ∨
    ∃ range ∈ set.ranges, range.1 ≤ c.toNat ∧ c.toNat ≤ range.2

/-- A widened set holds a character with the key of another one. -/
def Onset.HoldsLike {α : Type} (key : Char → α) (set : Onset) (c : Char) : Prop :=
  ∃ d, key d = key c ∧ set.Holds d

variable {a b : Onset} {c : Char} {flags : Flags} {α : Type} {key : Char → α}

namespace Onset

theorem holds_all (c : Char) : all.Holds c := Or.inl rfl

@[simp] theorem holds_union : (a.union b).Holds c ↔ a.Holds c ∨ b.Holds c := by
  simp only [Holds, union, Bool.or_eq_true, List.mem_append, or_and_right, exists_or]
  grind

theorem Holds.like (h : a.Holds c) : a.HoldsLike key c := ⟨c, rfl, h⟩

theorem holdsLike_id : a.HoldsLike id c ↔ a.Holds c := by
  constructor
  · rintro ⟨d, rfl, hd⟩
    exact hd
  · exact Holds.like

theorem holdsLike_union : (a.union b).HoldsLike key c ↔ a.HoldsLike key c ∨ b.HoldsLike key c := by
  unfold HoldsLike
  simp only [holds_union, and_or_left, exists_or]

theorem isEmpty_of_holds (h : a.Holds c) : a.isEmpty = false := by
  rcases h with h | ⟨h, -⟩ | ⟨range, hmem, -⟩
  · simp [isEmpty, h]
  · simp [isEmpty, h]
  · simp [isEmpty, List.ne_nil_of_mem hmem]

/-- Sets with a character in common overlap. -/
theorem overlaps_of_holds (ha : a.Holds c) (hb : b.Holds c) : a.overlaps b = true := by
  have hbeyond : ∀ {set : Onset} {range : Nat × Nat}, 128 ≤ c.toNat → range ∈ set.ranges →
      c.toNat ≤ range.2 → set.hasRangeBeyondAscii = true := by
    intro set range hc hmem hle
    exact List.any_eq_true.2 ⟨range, hmem, decide_eq_true (Nat.le_trans hc hle)⟩
  unfold overlaps
  rw [isEmpty_of_holds ha, isEmpty_of_holds hb]
  rcases ha with ha | ⟨ha, hc⟩ | ⟨x, hx, hx₁, hx₂⟩
  · simp [ha]
  · rcases hb with hb | ⟨hb, -⟩ | ⟨y, hy, hy₁, hy₂⟩
    · simp [hb]
    · simp [ha, hb]
    · simp [ha, hbeyond hc hy hy₂]
  · rcases hb with hb | ⟨hb, hc⟩ | ⟨y, hy, hy₁, hy₂⟩
    · simp [hb]
    · simp [hb, hbeyond hc hx hx₂]
    · have hranges : (a.ranges.any fun x => b.ranges.any fun y => x.1 ≤ y.2 && y.1 ≤ x.2) = true := by
        refine List.any_eq_true.2 ⟨x, hx, List.any_eq_true.2 ⟨y, hy, ?_⟩⟩
        simp [Nat.le_trans hx₁ hy₂, Nat.le_trans hy₁ hx₂]
      simp [hranges]

theorem holds_ofChar (c : Char) : (ofChar c).Holds c :=
  Or.inr (Or.inr ⟨(c.toNat, c.toNat), List.mem_map.2 ⟨c, List.mem_cons_self, rfl⟩,
    Nat.le_refl c.toNat, Nat.le_refl c.toNat⟩)

/-- A set holds what lies in ranges that are its own or beyond ASCII. -/
theorem holds_of_contains {set : Onset} {ranges : CodeRanges}
    (hranges : ∀ range ∈ ranges, range ∈ set.ranges ∨ (set.beyondAscii = true ∧ 128 ≤ range.1))
    (h : CodeRanges.contains ranges c.toNat = true) : set.Holds c := by
  obtain ⟨range, hmem, hlo, hhi⟩ := CodeRanges.contains_iff.1 h
  rcases hranges range hmem with hown | ⟨hbeyond, hlow⟩
  · exact Or.inr (Or.inr ⟨range, hown, hlo, hhi⟩)
  · exact Or.inr (Or.inl ⟨hbeyond, Nat.le_trans hlow hlo⟩)

/-- A one-letter class holds its characters, those beyond ASCII included or not. -/
theorem holds_ofPerl {cls : Pattern.PerlClass} {unicode : Bool} (hnegated : cls.negated = false)
    (h : CodeRanges.contains (cls.kind.ranges unicode) c.toNat = true) : (ofPerl cls).Holds c := by
  have hbeyond : ∀ {ranges : CodeRanges}, ∀ range ∈ Unicode.beyondAscii ranges, 128 ≤ range.1 :=
    fun range hmem => of_decide_eq_true (List.mem_filter.1 hmem).2
  unfold ofPerl
  rw [hnegated]
  cases hkind : cls.kind with
  | digit =>
    rw [hkind] at h
    refine holds_of_contains (fun range hmem => ?_) h
    cases unicode with
    | true => exact (List.mem_cons.1 hmem).imp List.mem_singleton.2 fun hmem => ⟨rfl, hbeyond range hmem⟩
    | false => exact Or.inl hmem
  | space =>
    rw [hkind] at h
    refine holds_of_contains ?_ h
    cases unicode with
    | true => decide
    | false => decide
  | word =>
    rw [hkind] at h
    refine holds_of_contains (fun range hmem => ?_) h
    have hown : ∀ range ∈ Pattern.AsciiKind.word.ranges,
        range ∈ [(48, 57), (65, 90), (97, 122), (95, 95)] := by decide
    cases unicode with
    | true => exact (List.mem_append.1 hmem).imp (hown range) fun hmem => ⟨rfl, hbeyond range hmem⟩
    | false => exact Or.inl (hown range hmem)

/-- What holds the like of the characters of a set does so of the folded set. -/
theorem HoldsLike.fold {set : Onset} {inner : CodeRanges} (hfolds : flags.FoldsBy key)
    (hinner : ∀ d : Char, CodeRanges.contains inner d.toNat = true → set.HoldsLike key d)
    (hc : CodeRanges.contains (flags.fold inner) c.toNat = true) : set.HoldsLike key c := by
  obtain ⟨d, hlike, hd⟩ := hfolds inner c hc
  obtain ⟨e, hlike', he⟩ := hinner d hd
  exact ⟨e, hlike'.trans hlike, he⟩

/-- It does so still where the complement of the set is not meant. -/
theorem HoldsLike.complement {span : Pattern.Span} {negated : Bool} {inner out : CodeRanges}
    {set : Onset} (hinner : CodeRanges.contains inner c.toNat = true → set.HoldsLike key c)
    (h : flags.complement span negated inner = .ok out)
    (hc : CodeRanges.contains out c.toNat = true) :
    (if negated then all else set).HoldsLike key c := by
  cases negated with
  | true => exact (holds_all c).like
  | false =>
    cases h
    exact hinner hc

theorem holds_perlRanges {cls : Pattern.PerlClass} {set : CodeRanges}
    (h : flags.perlRanges cls = .ok set) (hc : CodeRanges.contains set c.toNat = true) :
    (ofPerl cls).Holds c := by
  unfold Flags.perlRanges at h
  cases hnegated : cls.negated with
  | true =>
    unfold ofPerl
    rw [hnegated]
    exact holds_all c
  | false =>
    rw [hnegated] at h
    cases h
    exact holds_ofPerl hnegated hc

theorem holdsLike_literalRanges {l : Pattern.Literal} {set : CodeRanges}
    (hfolds : flags.FoldsBy key) (h : flags.literalRanges l = .ok set)
    (hc : CodeRanges.contains set c.toNat = true) : (ofChar l.char).HoldsLike key c := by
  unfold Flags.literalRanges at h
  split at h
  · cases h
  · cases h
    refine HoldsLike.fold hfolds (fun d hd => ?_) hc
    rw [CodeRanges.contains_single hd]
    exact (holds_ofChar l.char).like

mutual
/-- The onset of a class holds the like of every character of the class. -/
theorem holdsLike_ofClass (hfolds : flags.FoldsBy key) : ∀ (cls : Pattern.ClassSet)
    {set : CodeRanges}, cls.ranges flags = .ok set → ∀ c : Char,
      CodeRanges.contains set c.toNat = true → (ofClass cls).HoldsLike key c
  | .empty, _, h, _, hc => by cases h; cases hc
  | .literal l, _, h, c, hc => by
    obtain ⟨n, hn, heq⟩ := map_eq_ok_iff.1 h
    rw [← heq, Flags.classChar_eq hn] at hc
    rw [CodeRanges.contains_single hc]
    exact (holds_ofChar l.char).like
  | .range first last, _, h, c, hc => by
    obtain ⟨lo, hlo, h⟩ := bind_eq_ok_iff.1 h
    obtain ⟨hi, hhi, h⟩ := bind_eq_ok_iff.1 h
    cases h
    obtain ⟨range, hmem, hc₁, hc₂⟩ := CodeRanges.contains_iff.1 hc
    rw [List.mem_singleton.1 hmem, Flags.classChar_eq hlo, Flags.classChar_eq hhi] at hc₁ hc₂
    have hholds : (between first.char.toNat last.char.toNat).Holds c :=
      Or.inr (Or.inr ⟨_, List.mem_cons_self, by omega⟩)
    exact hholds.like
  | .ascii _ _ _, _, _, c, _ => (holds_all c).like
  | .property _, _, _, c, _ => (holds_all c).like
  | .perl _, _, h, _, hc => (holds_perlRanges h hc).like
  | .bracketed span negated body, _, h, c, hc => by
    obtain ⟨inner, hinner, h⟩ := bind_eq_ok_iff.1 h
    exact HoldsLike.complement (HoldsLike.fold hfolds (holdsLike_ofClass hfolds body hinner)) h hc
  | .union items, _, h, c, hc => holdsLike_ofItems hfolds items h c hc
  | .operation _ _ _, _, _, c, _ => (holds_all c).like

theorem holdsLike_ofItems (hfolds : flags.FoldsBy key) : ∀ (items : List Pattern.ClassSet)
    {set : CodeRanges}, Pattern.ClassSet.ranges.rangesOfAll flags items = .ok set → ∀ c : Char,
      CodeRanges.contains set c.toNat = true → (ofClass.ofItems items).HoldsLike key c
  | [], _, h, _, hc => by cases h; cases hc
  | item :: items, _, h, c, hc => by
    obtain ⟨front, hfront, h⟩ := bind_eq_ok_iff.1 h
    obtain ⟨others, hothers, h⟩ := bind_eq_ok_iff.1 h
    cases h
    exact holdsLike_union.2 ((CodeRanges.contains_union.1 hc).imp
      (holdsLike_ofClass hfolds item hfront c) (holdsLike_ofItems hfolds items hothers c))
end

end Onset

end Format

end Schemata
